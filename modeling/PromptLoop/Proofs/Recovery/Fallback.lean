import Mathlib.Data.List.Basic
import PromptLoop.Proofs.Recovery.Machine
import PromptLoop.Source.Desk

/-!
# How often a read falls back

At the end of its input a read falls back on a fresh source once. That it did so is forgotten as
soon as a failure is reported, as the attempts start anew then. So a read gives up at the second end
of input unless a failure was reported since the first one, and it may fall back once more for each
failure that it reports.

## Main definitions

* `ReadEvent.reports`, `ReadEvent.switches`: the reported failures and the replaced sources
* `ReadEvent.ends`: the ends of input since the last reported failure
* `Standing.Limited`: a run of the machine that falls back within its limits

## Main results

* `Standing.step_limited`, `Standing.run_limited`: the limits are kept step by step
* `Pipeline.fallbacks_limited`: what becomes of a read at a second end of input, and how many
  fallbacks a read takes at most
-/

namespace PromptLoop

variable {ι δ : Type}

namespace ReadEvent

/-- A failure is reported. -/
def isReport : ReadEvent → Bool
  | .notice (.wrote (.traceback _)) => true
  | _ => false

/-- A source is put in place of another one. -/
def isSwitch : ReadEvent → Bool
  | .notice (.logged record) => record.channel == Log.sessionChannel
  | _ => false

/-- How many failures are reported. -/
def reports (es : List ReadEvent) : Nat := es.countP isReport

/-- How often a source is put in place of another one. -/
def switches (es : List ReadEvent) : Nat := es.countP isSwitch

/-- How often the input has come to an end since a failure was last reported: whenever it does, the
supply is asked for a fresh source. -/
def ends (count : Nat) : ReadEvent → Nat
  | .requested => count + 1
  | .notice (.wrote (.traceback _)) => 0
  | _ => count

@[simp] theorem reports_append (es ds : List ReadEvent) :
    reports (es ++ ds) = reports es + reports ds := List.countP_append

@[simp] theorem switches_append (es ds : List ReadEvent) :
    switches (es ++ ds) = switches es + switches ds := List.countP_append

/-- Events that neither ask the supply nor report a failure. -/
structure Calm (es : List ReadEvent) : Prop where
  requests_eq : requests es = 0
  reports_eq : reports es = 0

theorem Calm.source (es : List SourceEvent) : Calm (es.map .source) where
  requests_eq := (Calls.source es).requests_eq
  reports_eq := by simp [reports, List.countP_eq_zero, isReport]

theorem switches_source (es : List SourceEvent) : switches (es.map .source) = 0 := by
  simp [switches, List.countP_eq_zero, isSwitch]

theorem calm_append {es ds : List ReadEvent} : Calm (es ++ ds) ↔ Calm es ∧ Calm ds := by
  constructor
  · rintro ⟨hrequests, hreports⟩
    rw [requests_append, Nat.add_eq_zero_iff] at hrequests
    rw [reports_append, Nat.add_eq_zero_iff] at hreports
    exact ⟨⟨hrequests.1, hreports.1⟩, hrequests.2, hreports.2⟩
  · rintro ⟨h, h'⟩
    refine ⟨?_, ?_⟩
    · rw [requests_append, h.requests_eq, h'.requests_eq]
    · rw [reports_append, h.reports_eq, h'.reports_eq]

theorem Calm.not_mem {es : List ReadEvent} (h : Calm es) : .requested ∉ es := by
  intro hmem
  have hnone := List.countP_eq_zero.mp h.requests_eq _ hmem
  exact hnone rfl

theorem Calm.ends_eq {e : ReadEvent} (h : Calm [e]) (count : Nat) : ends count e = count := by
  cases e with
  | requested => cases h.requests_eq
  | notice n =>
    cases n with
    | wrote write =>
      cases write with
      | traceback f => cases h.reports_eq
      | _ => rfl
    | logged record => rfl
  | _ => rfl

theorem Calm.foldl_ends {es : List ReadEvent} (h : Calm es) (count : Nat) :
    es.foldl ends count = count := by
  induction es with
  | nil => rfl
  | cons e es ih =>
    obtain ⟨hfirst, hrest⟩ := calm_append.mp (List.singleton_append ▸ h : Calm ([e] ++ es))
    rw [List.foldl_cons, hfirst.ends_eq]
    exact ih hrest

end ReadEvent

open ReadEvent

/-- A question asks for nothing but a line. -/
theorem Attempt.ask_calm {inputs : Inputs ι δ} {complete : String → List String} {prompt : String}
    {i j : Intake ι δ} {result : Except Failure Outcome} {es : List ReadEvent}
    (h : Attempt.ask inputs complete prompt i = ⟨result, j, es⟩) : Calm es ∧ switches es = 0 := by
  rw [Attempt.ask_apply] at h
  obtain ⟨-, -, rfl⟩ := Run.mk.inj h
  have hsource := Calm.source (inputs.read complete prompt i).events
  exact ⟨⟨hsource.requests_eq, hsource.reports_eq⟩, switches_source _⟩

/-- The supply is asked first; then it fails, or another source is put in place. -/
theorem Attempt.refill_cases (inputs : Inputs ι δ) (i : Intake ι δ) :
    (∃ g j ds, Attempt.refill inputs i = ⟨.error g, j, .requested :: ds⟩ ∧
      (inputs.fresh i.supply).result = .error g ∧ Calm ds ∧ switches ds = 0 ∧ asks ds = 0) ∨
    ∃ j ds, Attempt.refill inputs i = ⟨.ok (), j, .requested :: ds⟩ ∧
      Calm ds ∧ switches ds = 1 ∧ asks ds = 0 := by
  rcases hfresh : inputs.fresh i.supply with ⟨g | next, supply, es⟩
  · exact .inl ⟨g, _, _, refill_of_error hfresh, rfl, .source es, switches_source es,
      (Calls.source es).asks_eq⟩
  · -- the switch is recorded after what the supply does
    refine .inr ⟨_, _, refill_of_ok hfresh, calm_append.mpr ⟨.source es, ⟨rfl, rfl⟩⟩, ?_, ?_⟩
    · rw [switches_append, switches_source]
      rfl
    · rw [asks_append, (Calls.source es).asks_eq]
      rfl

namespace Standing

variable {inputs : Inputs ι δ} {config : Config} {complete : String → List String}
  {prompt : String} {s : Standing ι δ}

/-- How often the input of a guarded read has come to an end since the last failure. -/
def count (s : Standing ι δ) : Nat := if s.replaced then 1 else 0

/-- What becomes of a read after a second end of input: unless a failure is reported once more, no
source is asked again, and the read gives up or fails with what the supply fails with; and a failure
that is reported then is one of the supply. -/
structure Settled (inputs : Inputs ι δ) (config : Config) (result : Except Failure (Option Outcome))
    (fs : List ReadEvent) : Prop where
  quiet : reports fs = 0 → asks fs = 0 ∧ (result = .ok (some .noMoreInput) ∨
    ∃ supply g, (inputs.fresh supply).result = .error g ∧ result = .error (escape config g))
  reported : reports fs ≠ 0 →
    ∃ supply g, (inputs.fresh supply).result = .error g ∧ config.rescues g = true

/-- The last attempt has come to the end of its input. -/
def Ended (attempt : Attempt ι δ) (es : List ReadEvent) : Prop :=
  ∃ before i f, es = before ++ (attempt i).events ∧ (attempt i).result = .error f ∧
    f.isA .endOfFile = true

/-- A run of the machine that falls back within its limits. -/
structure Limited (inputs : Inputs ι δ) (config : Config) (attempt : Attempt ι δ)
    (s : Standing ι δ) (r : Run ReadEvent (Standing ι δ) (Option Outcome)) : Prop where
  request : ∀ es fs, r.events = es ++ .requested :: fs →
    Ended attempt es ∧ (es.foldl ends s.count ≠ 0 → Settled inputs config r.result fs)
  goesOn : r.result = .ok none → r.events.foldl ends s.count = r.state.count ∧
    switches r.events + s.count ≤ reports r.events + r.state.count
  outcome : ∀ o, r.result = .ok (some o) → o ≠ .noMoreInput →
    switches r.events + s.count ≤ reports r.events + 1
  failures_eq : r.state.failures = s.failures + reports r.events
  budget : r.result ≠ .ok (some .noMoreInput) → s.failures < config.budget →
    r.state.failures < config.budget

theorem count_le (s : Standing ι δ) : s.count ≤ 1 := by
  unfold count
  split <;> omega

/-- A report is one of one failure, after which the ends of input count anew. -/
theorem failureReport_once (inputs : Inputs ι δ) (config : Config) (count : Nat) (source : ι)
    (f : Failure) (text : String) :
    let es := Policy.failureReport inputs config count source f text
    requests es = 0 ∧ switches es = 0 ∧ reports es = 1 ∧ ∀ n, es.foldl ends n = 0 := by
  intro es
  dsimp only [es, Policy.failureReport]
  cases Policy.failureRecord? config count (inputs.label source) text with
  | none => exact ⟨rfl, rfl, rfl, fun _ => rfl⟩
  | some message => exact ⟨rfl, rfl, rfl, fun _ => rfl⟩

/-- A failure ends the read, or it is reported and counted. -/
theorem fail_cases (inputs : Inputs ι δ) (config : Config) (f : Failure) (s : Standing ι δ) :
    fail inputs config f s = ⟨.error (escape config f), s, []⟩ ∨
      config.rescues f = true ∧ ∃ outcome es,
        fail inputs config f s = ⟨.ok outcome, ⟨s.intake, s.failures + 1, false⟩, es⟩ ∧
        (outcome = none ∧ s.failures + 1 < config.budget ∨ outcome = some .noMoreInput) ∧
        requests es = 0 ∧ switches es = 0 ∧ reports es = 1 ∧ ∀ n, es.foldl ends n = 0 := by
  by_cases hf : config.rescues f = true
  · cases htext : f.text? with
    | none => exact .inl (fail_of_unreported (.inr htext))
    | some text =>
      refine .inr ⟨hf, ?_⟩
      obtain ⟨hrequests, hswitches, hreports, hends⟩ :=
        failureReport_once inputs config (s.failures + 1) s.intake.source f text
      by_cases hmore : s.failures + 1 < config.budget
      · exact ⟨_, _, fail_of_more hf htext hmore, .inl ⟨rfl, hmore⟩, hrequests, hswitches, hreports,
          hends⟩
      · refine ⟨_, _, fail_of_last hf htext hmore, .inr rfl, ?_, ?_, ?_, fun n => ?_⟩
        · rw [requests_append, hrequests]
          rfl
        · rw [switches_append, hswitches]
          rfl
        · rw [reports_append, hreports]
          rfl
        · rw [List.foldl_append, hends]
          rfl
  · exact .inl (fail_of_unreported (.inl (Bool.eq_false_iff.mpr hf)))

section Step

variable {inputs : Inputs ι δ} {config : Config} {attempt : Attempt ι δ} {s : Standing ι δ}
  {i j : Intake ι δ} {f : Failure} {es ds : List ReadEvent}

/-- An attempt that comes to an outcome. -/
theorem settled_limited {o : Outcome} (hes : Calm es) (hswitches : switches es = 0) :
    Limited inputs config attempt s ⟨.ok (some o), { s with intake := i }, es⟩ where
  request as fs h := by
    obtain rfl : es = as ++ .requested :: fs := h
    exact absurd (List.mem_append_right _ List.mem_cons_self) hes.not_mem
  goesOn h := by cases h
  outcome _ _ _ := by
    have hcount := s.count_le
    show switches es + s.count ≤ reports es + 1
    rw [hswitches, hes.reports_eq]
    omega
  failures_eq := by
    show s.failures = s.failures + reports es
    rw [hes.reports_eq, Nat.add_zero]
  budget _ hs := hs

/-- A failed attempt, apart from what becomes of it where the supply was asked. -/
theorem fail_limited (hreports : reports es = 0) (hswitches : switches es = 0)
    (hrequest : ∀ as fs,
      es ++ (fail inputs config f { s with intake := i }).events = as ++ .requested :: fs →
        Ended attempt as ∧
          Settled inputs config (fail inputs config f { s with intake := i }).result fs) :
    Limited inputs config attempt s ((fail inputs config f { s with intake := i }).after es) := by
  have hle := s.count_le
  have hrequested : ∀ as fs,
      es ++ (fail inputs config f { s with intake := i }).events = as ++ .requested :: fs →
        Ended attempt as ∧ (as.foldl ends s.count ≠ 0 →
          Settled inputs config (fail inputs config f { s with intake := i }).result fs) :=
    fun as fs h => (hrequest as fs h).imp_right fun hsettled _ => hsettled
  rcases fail_cases inputs config f { s with intake := i } with
    hfail | ⟨hf, outcome, report, hfail, hgo, -, hfree, hone, hends⟩
  · -- The failure passes, so no attempt goes on from it.
    rw [hfail] at hrequested ⊢
    refine ⟨hrequested, nofun, nofun, ?_, fun _ hs => hs⟩
    show s.failures = s.failures + reports (es ++ [])
    rw [List.append_nil, hreports, Nat.add_zero]
  · -- Its report is one more, and makes up for the source that was replaced before it.
    rw [hfail] at hrequested ⊢
    have hreported : reports (es ++ report) = 1 := by rw [reports_append, hreports, hone]
    have hfreed : switches (es ++ report) = 0 := by rw [switches_append, hswitches, hfree]
    refine ⟨hrequested, fun _ => ⟨?_, ?_⟩, fun _ _ _ => ?_, ?_, ?_⟩
    · show (es ++ report).foldl ends s.count = 0
      rw [List.foldl_append, hends]
    · show switches (es ++ report) + s.count ≤ reports (es ++ report) + 0
      omega
    · show switches (es ++ report) + s.count ≤ reports (es ++ report) + 1
      omega
    · show s.failures + 1 = s.failures + reports (es ++ report)
      omega
    · rintro hgiven -
      rcases hgo with ⟨-, hmore⟩ | rfl
      · exact hmore
      · exact absurd rfl hgiven

/-- An attempt that fails otherwise than by the end of its input. -/
theorem failed_limited (hes : Calm es) (hswitches : switches es = 0) :
    Limited inputs config attempt s ((fail inputs config f { s with intake := i }).after es) := by
  refine fail_limited hes.reports_eq hswitches fun as fs h => ?_
  -- the supply is not asked
  have hnone : requests (es ++ (fail inputs config f { s with intake := i }).events) = 0 := by
    rcases fail_cases inputs config f { s with intake := i } with
      hfail | ⟨-, outcome, report, hfail, -, hfree, -⟩
    · rw [hfail, List.append_nil, hes.requests_eq]
    · rw [hfail, requests_append, hes.requests_eq, hfree]
  rw [h, requests_append] at hnone
  simp [requests, isRequest] at hnone

/-- An attempt that comes to the end of its input when the supply has nothing to put in place. -/
theorem refused_limited {supply : δ} (hended : Ended attempt es) (hes : Calm es)
    (hswitches : switches es = 0) (hds : Calm ds)
    (hswitches' : switches ds = 0) (hasks : asks ds = 0)
    (hsupply : (inputs.fresh supply).result = .error f) :
    Limited inputs config attempt s
      ((fail inputs config f { s with intake := i }).after (es ++ .requested :: ds)) := by
  have hreports : reports (es ++ .requested :: ds) = 0 := by
    rw [reports_append, hes.reports_eq, Nat.zero_add]
    exact hds.reports_eq
  have hfree : switches (es ++ .requested :: ds) = 0 := by
    rw [switches_append, hswitches, Nat.zero_add]
    exact hswitches'
  refine fail_limited hreports hfree fun as fs h => ?_
  rw [List.append_assoc, List.cons_append] at h
  rcases fail_cases inputs config f { s with intake := i } with
    hfail | ⟨hf, outcome, report, hfail, -, hunasked, -, hone, -⟩
  · -- what the supply fails with ends the read
    rw [hfail, List.append_nil] at h
    obtain ⟨rfl, -, rfl⟩ := (List.append_cons_inj_of_notMem hes.not_mem hds.not_mem).mp h
    rw [hfail]
    exact ⟨hended, fun _ => ⟨hasks, .inr ⟨supply, f, hsupply, rfl⟩⟩, fun hmore =>
      absurd hds.reports_eq hmore⟩
  · -- what the supply fails with is reported
    rw [hfail] at h
    have hrest : .requested ∉ ds ++ report := by
      intro hmem
      rcases List.mem_append.mp hmem with hmem | hmem
      · exact hds.not_mem hmem
      · exact List.countP_eq_zero.mp hunasked _ hmem rfl
    obtain ⟨rfl, -, rfl⟩ := (List.append_cons_inj_of_notMem hes.not_mem hrest).mp h
    refine ⟨hended, fun hnone => ?_, fun _ => ⟨supply, f, hsupply, hf⟩⟩
    rw [reports_append, hone] at hnone
    omega

/-- An attempt that comes to the end of its input for the first time since the last failure. -/
theorem replaced_limited (hended : Ended attempt es) (hs : s.replaced = false) (hes : Calm es)
    (hswitches : switches es = 0)
    (hds : Calm ds) (hswitches' : switches ds = 1) :
    Limited inputs config attempt s ⟨.ok none, ⟨j, s.failures, true⟩, es ++ .requested :: ds⟩ where
  request as fs h := by
    -- The request is the only one of the attempt, and no source was replaced before it.
    obtain ⟨rfl, -, -⟩ := (List.append_cons_inj_of_notMem hes.not_mem hds.not_mem).mp h
    refine ⟨hended, fun hcount => ?_⟩
    rw [hes.foldl_ends, count, hs] at hcount
    exact absurd rfl hcount
  goesOn _ := by
    have hreports : reports (.requested :: ds) = 0 := hds.reports_eq
    have hswitched : switches (.requested :: ds) = 1 := hswitches'
    have hcount : s.count = 0 := by rw [count, hs]; rfl
    refine ⟨?_, ?_⟩
    · show (es ++ .requested :: ds).foldl ends s.count = 1
      rw [List.foldl_append, hes.foldl_ends, List.foldl_cons, hds.foldl_ends, hcount]
      rfl
    · show switches (es ++ .requested :: ds) + s.count ≤ reports (es ++ .requested :: ds) + 1
      rw [switches_append, hswitches, hswitched, hcount]
      omega
  outcome o h := by cases h
  failures_eq := by
    show s.failures = s.failures + reports (es ++ .requested :: ds)
    have hreports : reports (.requested :: ds) = 0 := hds.reports_eq
    rw [reports_append, hes.reports_eq, hreports, Nat.add_zero]
  budget _ hs := hs

/-- An attempt that comes to the end of its input once more. -/
theorem exhausted_limited (hended : Ended attempt es) (hes : Calm es) (hds : Calm ds)
    (hasks : asks ds = 0) :
    Limited inputs config attempt s
      ⟨.ok (some .noMoreInput), { s with intake := j }, es ++ .requested :: ds⟩ where
  request as fs h := by
    obtain ⟨rfl, -, rfl⟩ := (List.append_cons_inj_of_notMem hes.not_mem hds.not_mem).mp h
    exact ⟨hended, fun _ => ⟨fun _ => ⟨hasks, .inl rfl⟩, fun hmore =>
      absurd hds.reports_eq hmore⟩⟩
  goesOn h := by cases h
  outcome o h hgiven := by
    cases h
    exact absurd rfl hgiven
  failures_eq := by
    show s.failures = s.failures + reports (es ++ .requested :: ds)
    have hreports : reports (.requested :: ds) = 0 := hds.reports_eq
    rw [reports_append, hes.reports_eq, hreports, Nat.add_zero]
  budget h := absurd rfl h

end Step

variable {inputs : Inputs ι δ} {config : Config}

variable (inputs config) in
/-- One attempt falls back within the limits. -/
theorem step_limited (complete : String → List String) (prompt : String) (s : Standing ι δ) :
    Limited inputs config (Attempt.ask inputs complete prompt) s
      (step inputs config (Attempt.ask inputs complete prompt) s) := by
  rcases hi : Attempt.ask inputs complete prompt s.intake with ⟨f | outcome, i, es⟩
  · obtain ⟨hes, hswitches⟩ := Attempt.ask_calm hi
    by_cases hint : f.isA .keyboardInterrupt = true
    · -- An interrupt is an outcome, and only the log is told of it.
      rw [step_of_interrupt hi hint]
      refine settled_limited (calm_append.mpr ⟨hes, ⟨rfl, rfl⟩⟩) ?_
      rw [switches_append, hswitches]
      rfl
    rw [Bool.not_eq_true] at hint
    by_cases hend : f.isA .endOfFile = true
    · -- The supply is asked, whether or not a source has been replaced before.
      have hended : Ended (Attempt.ask inputs complete prompt) es := by
        refine ⟨[], s.intake, f, ?_, ?_, hend⟩
        · rw [hi, List.nil_append]
        · rw [hi]
      rcases Attempt.refill_cases inputs i with
        ⟨g, j, ds, hr, hsupply, hds, hswitches', hasks⟩ | ⟨j, ds, hr, hds, hswitches', hasks⟩
      · rw [step_of_end_error hi hint hend hr]
        exact refused_limited hended hes hswitches hds hswitches' hasks hsupply
      · cases hb : s.replaced with
        | true =>
          rw [step_of_end_replaced hi hint hend hr hb, List.append_assoc, List.cons_append]
          refine exhausted_limited hended hes (calm_append.mpr ⟨hds, ⟨rfl, rfl⟩⟩) ?_
          rw [asks_append, hasks]
          rfl
        | false =>
          rw [step_of_end hi hint hend hr hb, List.append_assoc, List.cons_append]
          refine replaced_limited hended hb hes hswitches (calm_append.mpr ⟨hds, ⟨rfl, rfl⟩⟩) ?_
          rw [switches_append, hswitches']
          rfl
    · rw [Bool.not_eq_true] at hend
      rw [step_of_error hi hint hend]
      exact failed_limited hes hswitches
  · obtain ⟨hes, hswitches⟩ := Attempt.ask_calm hi
    rw [step_of_ok hi]
    exact settled_limited hes hswitches

theorem Settled.mono {result : Except Failure (Option Outcome)} {es : List ReadEvent}
    (h : Settled inputs config (.ok none) es) (ds : List ReadEvent) :
    Settled inputs config result (es ++ ds) := by
  -- Attempts go on after a second end of input because a failure of the supply was reported.
  have hmore : reports es ≠ 0 := by
    intro hnone
    obtain ⟨-, hgiven | ⟨supply, g, -, hg⟩⟩ := h.quiet hnone
    · cases hgiven
    · cases hg
  refine ⟨fun hnone => ?_, fun _ => h.reported hmore⟩
  rw [reports_append] at hnone
  omega

theorem Ended.after {attempt : Attempt ι δ} {es : List ReadEvent} (h : Ended attempt es)
    (ds : List ReadEvent) : Ended attempt (ds ++ es) := by
  obtain ⟨before, i, f, rfl, hf, hend⟩ := h
  exact ⟨ds ++ before, i, f, (List.append_assoc _ _ _).symm, hf, hend⟩

/-- Attempts that follow an attempt without an outcome. -/
theorem Limited.trans {attempt : Attempt ι δ} {s t : Standing ι δ} {es : List ReadEvent}
    {q : Run ReadEvent (Standing ι δ) (Option Outcome)}
    (h : Limited inputs config attempt s ⟨.ok none, t, es⟩)
    (hq : Limited inputs config attempt t q) : Limited inputs config attempt s (q.after es) := by
  obtain ⟨hends, hbalance⟩ := h.goesOn rfl
  change switches es + s.count ≤ reports es + t.count at hbalance
  have hfailures : t.failures = s.failures + reports es := h.failures_eq
  have hfailures' := hq.failures_eq
  refine ⟨fun as fs heq => ?_, fun hnone => ?_, fun o ho hgiven => ?_, ?_, fun hgiven hs => ?_⟩
  · -- The request belongs to what followed or to the attempt before it.
    rcases List.append_eq_append_iff.mp heq with ⟨as', rfl, hlater⟩ | ⟨bs, rfl, hrest⟩
    · obtain ⟨hended, hsettled⟩ := hq.request as' fs hlater
      rw [List.foldl_append, hends]
      exact ⟨hended.after es, hsettled⟩
    · cases bs with
      | nil =>
        obtain ⟨hended, hsettled⟩ := hq.request [] fs hrest.symm
        rw [List.append_nil] at hends
        rw [hends]
        exact ⟨List.append_nil as ▸ hended.after as, hsettled⟩
      | cons e bs =>
        obtain ⟨rfl, rfl⟩ := List.cons.inj hrest
        obtain ⟨hended, hsettled⟩ := h.request as bs rfl
        exact ⟨hended, fun hcount => (hsettled hcount).mono q.events⟩
  · obtain ⟨hends', hbalance'⟩ := hq.goesOn hnone
    refine ⟨?_, ?_⟩
    · show (es ++ q.events).foldl ends s.count = q.state.count
      rw [List.foldl_append, hends]
      exact hends'
    · show switches (es ++ q.events) + s.count ≤ reports (es ++ q.events) + q.state.count
      rw [switches_append, reports_append]
      omega
  · have hrest := hq.outcome o ho hgiven
    show switches (es ++ q.events) + s.count ≤ reports (es ++ q.events) + 1
    rw [switches_append, reports_append]
    omega
  · show q.state.failures = s.failures + reports (es ++ q.events)
    rw [reports_append]
    omega
  · exact hq.budget hgiven (h.budget nofun hs)

variable (inputs config) in
/-- Any number of attempts fall back within the limits. -/
theorem run_limited (complete : String → List String) (prompt : String) (n : Nat)
    (s : Standing ι δ) :
    Limited inputs config (Attempt.ask inputs complete prompt) s
      (run inputs config (Attempt.ask inputs complete prompt) n s) := by
  -- by induction on the attempts: whether a source was replaced is passed on from one to the next
  induction n generalizing s with
  | zero =>
    refine ⟨fun as fs h => ?_, fun _ => ⟨rfl, Nat.le_refl _⟩, nofun, rfl, fun _ hs => hs⟩
    exact absurd h.symm (List.append_ne_nil_of_right_ne_nil as (List.cons_ne_nil _ fs))
  | succ n ih =>
    have hstep := step_limited inputs config complete prompt s
    rw [run_succ]
    rcases h : step inputs config (Attempt.ask inputs complete prompt) s with
      ⟨f | (_ | outcome), t, es⟩
    · rw [h] at hstep
      exact hstep
    · rw [h] at hstep
      exact hstep.trans (ih t)
    · rw [h] at hstep
      rw [Run.andThen_ok, goOn, Act.pure_apply, Run.after, List.append_nil]
      exact hstep

end Standing

/-- An outcome of the machine is one of the read. -/
theorem ok_of_map_some {r : Except Failure Outcome} {o : Outcome}
    (h : r.map some = .ok (some o)) : r = .ok o := by
  cases r with
  | error f => cases h
  | ok a => exact congrArg Except.ok (Option.some.inj (Except.ok.inj h))

theorem error_of_map_some {r : Except Failure Outcome} {f : Failure}
    (h : r.map some = .error f) : r = .error f := by
  cases r with
  | error g => exact congrArg Except.error (Except.error.inj h)
  | ok a => cases h

/-- **How often a read falls back.** The supply is asked where an attempt has come to the end of its
input. When it is asked once more without a failure reported in between, no source is asked any
more, and the read gives up or fails with what the supply fails with; unless that is reported and
retried. So a read that comes to a line fell back at most once more than it reported
failures, which are fewer than the budget. -/
theorem Pipeline.fallbacks_limited (inputs : Inputs ι δ) (config : Config)
    (complete : String → List String) (prompt : String) (i : Intake ι δ) :
    let attempt := Attempt.ask inputs complete prompt
    let read := Pipeline.guard inputs config .standard attempt i
    (∀ es fs, read.events = es ++ .requested :: fs →
      (∃ before j f, es = before ++ (attempt j).events ∧ (attempt j).result = .error f ∧
        f.isA .endOfFile = true) ∧
      (es.foldl ReadEvent.ends 0 ≠ 0 →
        (reports fs = 0 → asks fs = 0 ∧ (read.result = .ok .noMoreInput ∨
          ∃ supply g, (inputs.fresh supply).result = .error g ∧
            read.result = .error (Standing.escape config g))) ∧
        (reports fs ≠ 0 →
          ∃ supply g, (inputs.fresh supply).result = .error g ∧ config.rescues g = true))) ∧
    ∀ text, read.result = .ok (.line text) →
      switches read.events ≤ reports read.events + 1 ∧ reports read.events < config.budget := by
  intro attempt read
  -- The read is a run of the machine, which keeps within the limits from its fresh standing on.
  have hrun : Standing.ComesTo _ read := Standing.run_standard i
  have hlimited := Standing.run_limited inputs config complete prompt
    (2 * config.budget) ⟨i, 0, false⟩
  rcases h : Standing.run inputs config attempt (2 * config.budget) ⟨i, 0, false⟩ with
    ⟨result, last, es⟩
  rw [Standing.ComesTo, h, Run.seen_mk] at hrun
  obtain ⟨hresult, -, hevents⟩ := Run.mk.inj hrun
  rw [h] at hlimited
  refine ⟨fun as fs heq => ?_, fun text htext => ?_⟩
  · obtain ⟨hended, hsettled⟩ := hlimited.request as fs (hevents.trans heq)
    refine ⟨hended, fun hcount => ?_⟩
    obtain ⟨hquiet, hreported⟩ := hsettled hcount
    refine ⟨fun hnone => ?_, hreported⟩
    obtain ⟨hasks, hgiven | ⟨supply, g, hsupply, hg⟩⟩ := hquiet hnone
    · exact ⟨hasks, .inl (ok_of_map_some (hresult.symm.trans hgiven))⟩
    · exact ⟨hasks, .inr ⟨supply, g, hsupply, error_of_map_some (hresult.symm.trans hg)⟩⟩
  · have hline : result = .ok (some (.line text)) := by
      rw [hresult, htext]
      rfl
    have hlast : Outcome.line text ≠ .noMoreInput := by
      intro h
      cases h
    have hswitches : switches es + 0 ≤ reports es + 1 := hlimited.outcome _ hline hlast
    have hgiven : result ≠ .ok (some .noMoreInput) := by
      intro h
      cases hline.symm.trans h
    have hbudget : last.failures < config.budget := hlimited.budget hgiven config.budget_pos
    have hfailures : last.failures = 0 + reports es := hlimited.failures_eq
    rw [← hevents]
    exact ⟨hswitches, by omega⟩

/-- A failure between two ends of input: the line comes from the second source that was put in
place. -/
example :
    let fallbacks : List Fallback :=
      [.source (.scripted .withPrompt "first" [.fail (.saying .os "broken")]),
        .source (.scripted .withPrompt "second" [.answer (some "x")])]
    let desk : Desk := { fallbacks := some fallbacks }
    let read := Pipeline.guard Desk.inputs .standard .standard
      (Attempt.ask Desk.inputs (fun _ => []) "> ") ⟨.scripted .withPrompt "empty" [], desk⟩
    read.result = .ok (.line "x") ∧ switches read.events = 2 ∧ reports read.events = 1 :=
  ⟨rfl, rfl, rfl⟩

end PromptLoop
