import PromptLoop.Session.Run

/-!
# Assembling a session

A session may be planned without a source or a screen. Then the supply yields the source, and a
default screen is asked for. A value to work on is handed to the evaluator before the start.

## Main definitions

* `Plan`: what is known of a session beforehand
* `Plan.assemble`: the session of a plan
* `Plan.perform?`: the session of a plan, assembled and run
-/

namespace PromptLoop

/-- What is known of a session beforehand. -/
structure Plan (ι δ σ : Type) where
  evaluator : Evaluator ι σ
  inputs : Inputs ι δ
  config : Config
  policies : Pipeline := .standard
  family : Terminal.Family := .byCell
  source : Option ι := none
  screen : Option Screen := none
  /-- The value that code should work on. -/
  target : Option Value := none
  /-- How many blanks memory holds. -/
  memory : Nat := Padding.usualMemory

namespace Plan

variable {ι δ σ : Type}

/-- The screen that is used when none is planned. -/
def defaultScreen : Screen := {}

/-- The source of a plan, or else a fresh one. -/
def findSource (plan : Plan ι δ σ) : Act Event δ ι :=
  match plan.source with
  | some source => pure source
  | none => do
    Act.emit [.reading .requested]
    plan.inputs.fresh.within id (fun _ supply => supply) fun e => .reading (.source e)

/-- The screen of a plan, or else the default one. -/
def findScreen {τ : Type} (plan : Plan ι δ σ) : Act Event τ Screen :=
  match plan.screen with
  | some screen => pure screen
  | none => do
    Act.emit [.screenRequested]
    return defaultScreen

/-- Why a value to work on is refused. -/
def noTarget (name : String) : Failure :=
  .saying .type (name ++ " does not accept a target binding")

/-- Hands the value to work on to the evaluator. -/
def pushTarget (plan : Plan ι δ σ) : Act Event σ Unit :=
  match plan.target with
  | none => pure ()
  | some v =>
    match plan.evaluator.push with
    | none => Act.raise (noTarget plan.evaluator.name)
    | some push => (push v).within id (fun _ s => s) .evaluator

/-- The session of a plan: its source, its screen and then its value to work on are seen to. -/
def assemble (plan : Plan ι δ σ) : Act Event (σ × δ) (Setup ι δ σ × Session ι δ σ) := do
  let source ← plan.findSource.within Prod.snd (fun s supply => (s.1, supply)) id
  let screen ← plan.findScreen
  plan.pushTarget.within Prod.fst (fun s evaluator => (evaluator, s.2)) id
  let (evaluator, supply) ← Act.current
  let setup : Setup ι δ σ :=
    { evaluator := plan.evaluator, inputs := plan.inputs, config := plan.config,
      policies := plan.policies, screen, family := plan.family, memory := plan.memory }
  return (setup, Session.initial setup evaluator ⟨source, supply⟩)

end Plan

/-- What became of a planned session. -/
structure Performance (ι δ σ : Type) where
  result : Except Failure Value
  events : List Event
  /-- The state that the evaluator was left in. -/
  evaluator : σ
  /-- The session at its end, unless it could not be assembled. -/
  session : Option (Session ι δ σ)

/-- The session of a plan, assembled and run; none when it does not end within a number of turns. -/
def Plan.perform? {ι δ σ : Type} (plan : Plan ι δ σ) (limit : Session ι δ σ → Nat) (evaluator : σ)
    (supply : δ) : Option (Performance ι δ σ) :=
  match plan.assemble (evaluator, supply) with
  | ⟨.error f, s, es⟩ => some ⟨.error f, es, s.1, none⟩
  | ⟨.ok (setup, session), _, es⟩ =>
    (Session.run? setup (limit session) session).map fun r =>
      ⟨r.result, es ++ r.events, r.state.evaluator, some r.state⟩

end PromptLoop
