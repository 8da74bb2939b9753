import Mathlib.Data.List.Induction
import PromptLoop.Proofs.Log.Failing

/-!
# The handlers of a log over time

Calls of the router replace its own handlers, while others come and add handlers of theirs or take
them away. Neither touches what belongs to the other. The own handlers that there ever were are kept
in a ledger, the closed ones first: a call closes all that are in it and adds those that it
attaches.

## Main definitions

* `Log.Call`: a call of the router, with what it finds
* `Log.Deed`, `Log.Router.after?`: what happens to a log, and the router after it
* `Log.Router.ledger`: the own handlers that there ever were
* `Log.Router.Numbered`: the ledger is in order, and numbers are not given twice

## Main results

* `Log.Router.attach_eq_add`: a new handler is added behind the others
* `Log.Router.others_after?`: handlers of others come and go as if there were no calls
* `Log.Router.ledger_prefix_after?`: nothing leaves the ledger, so what is in it is closed by a call
* `Log.Router.Numbered.after?`: no own handler is attached twice
* `Log.calls_replace_own`: the handlers and the level after each call of a history
-/

namespace PromptLoop.Log

/-! ## What happens to a log -/

/-- A call of the router: its arguments, the environment, and what opening a file comes to then. -/
structure Call where
  level : Option String := none
  file : Option String := none
  env : Environment := {}
  opens : String → Except Failure Unit

/-- The router after a call, unless the call fails. -/
def Call.perform (call : Call) (r : Router) : Except Failure Router :=
  let run := configure call.opens call.env call.level call.file r
  run.result.map fun _ => run.state

namespace Router

/-- Adds a handler, unless it is there already. -/
def add (h : Handler) (r : Router) : Router :=
  { r with
    handlers := if h ∈ r.handlers then r.handlers else r.handlers ++ [h]
    issued := max r.issued (h.serial + 1) }

/-- Takes a handler away, if it is there. -/
def remove (h : Handler) (r : Router) : Router := { r with handlers := r.handlers.erase h }

end Router

/-- Something that happens to a log: a call of the router, or somebody else adds a handler or takes
one away, which is none of the router's own. -/
inductive Deed
  | reroute (call : Call)
  | add (h : Handler) (foreign : h.isOwn = false)
  | remove (h : Handler) (foreign : h.isOwn = false)

/-- The router after something that happens to the log, unless it is a call that fails. -/
def Deed.perform : Deed → Router → Except Failure Router
  | .reroute call, r => call.perform r
  | .add h _, r => .ok (r.add h)
  | .remove h _, r => .ok (r.remove h)

/-- What it does to the handlers of others alone. -/
def Deed.onOthers : Deed → List Handler → List Handler
  | .reroute _, hs => hs
  | .add h _, hs => if h ∈ hs then hs else hs ++ [h]
  | .remove h _, hs => hs.erase h

namespace Router

/-- The router after all that has happened to a log, if no call among it has failed. -/
def after? (deeds : List Deed) (r : Router) : Except Failure Router :=
  deeds.foldlM (fun r deed => deed.perform r) r

/-- The own handlers that there ever were, the closed ones first. -/
def ledger (r : Router) : List Handler := r.closed ++ r.own

/-- The handlers of a log are numbered: the own ones in the order in which they were attached, and
all of them below the next number. No handler of somebody else is closed. -/
structure Numbered (r : Router) : Prop where
  own_of_closed : ∀ h ∈ r.closed, h.isOwn = true
  increasing : r.ledger.Pairwise (·.serial < ·.serial)
  below : ∀ h ∈ r.closed ++ r.handlers, h.serial < r.issued

variable {r s start : Router} {deed : Deed} {deeds : List Deed} {call : Call} {h : Handler}

@[simp] theorem after?_nil (r : Router) : r.after? [] = .ok r := rfl

/-- What happens to a log in two parts happens to what the first part leaves. -/
theorem after?_append_eq_ok_iff {more : List Deed} :
    start.after? (deeds ++ more) = .ok s ↔
      ∃ r, start.after? deeds = .ok r ∧ r.after? more = .ok s := by
  rw [after?, List.foldlM_append]
  show (start.after? deeds).bind (·.after? more) = _ ↔ _
  cases start.after? deeds <;> simp [Except.bind]

theorem after?_snoc_eq_ok_iff :
    start.after? (deeds ++ [deed]) = .ok s ↔
      ∃ r, start.after? deeds = .ok r ∧ deed.perform r = .ok s := by
  have hone : ∀ r : Router, r.after? [deed] = deed.perform r := by
    intro r
    rw [after?, List.foldlM_cons]
    show (deed.perform r).bind .ok = _
    cases deed.perform r <;> rfl
  rw [after?_append_eq_ok_iff]
  simp only [hone]

/-! ## One thing that happens -/

/-- A call that does not fail has known its level and opened its file, and leaves the own handlers
replaced. -/
theorem reroute_eq_ok_iff :
    (Deed.reroute call).perform r = .ok s ↔
      ∃ number, levelNumber? (levelName call.env call.level) = some number ∧
        (∀ path, filePath call.env call.file = some path → call.opens path = .ok ()) ∧
        s = r.rerouted number (filePath call.env call.file) := by
  rw [← @configure_ok_iff call.opens call.env call.level call.file r s, Deed.perform, Call.perform]
  cases (configure call.opens call.env call.level call.file r).result <;> simp [Except.map]

theorem isOwn_of_mem_ownHandlers {number : Nat} {path? : Option String}
    (hmem : h ∈ ownHandlers number path?) : h.isOwn = true := by
  rcases List.mem_cons.mp hmem with rfl | hmem
  · rfl
  · obtain ⟨path, -, rfl⟩ := List.mem_map.mp hmem
    rfl

@[simp] theorem own_rerouted (level : Nat) (path? : Option String) (r : Router) :
    (r.rerouted level path?).own = ownHandlers r.issued path? := by
  have hothers : r.others.filter (·.isOwn) = [] := by simp [others, List.filter_filter]
  have hown : (ownHandlers r.issued path?).filter (·.isOwn) = ownHandlers r.issued path? :=
    List.filter_eq_self.mpr fun _ => isOwn_of_mem_ownHandlers
  rw [own, rerouted, List.filter_append, hothers, hown, List.nil_append]

@[simp] theorem others_rerouted (level : Nat) (path? : Option String) (r : Router) :
    (r.rerouted level path?).others = r.others := by
  have hothers : r.others.filter (!·.isOwn) = r.others := by simp [others, List.filter_filter]
  have hown : (ownHandlers r.issued path?).filter (!·.isOwn) = [] := by
    refine List.filter_eq_nil_iff.mpr fun h hmem => ?_
    simp [isOwn_of_mem_ownHandlers hmem]
  rw [others, rerouted, List.filter_append, hothers, hown, List.append_nil]

/-- Others leave the router's own handlers alone. -/
theorem own_add (hforeign : h.isOwn = false) (r : Router) : (r.add h).own = r.own := by
  rw [own, add]
  split
  · rfl
  · simp [List.filter_append, hforeign, own]

theorem own_remove (hforeign : h.isOwn = false) (r : Router) : (r.remove h).own = r.own := by
  have hmem : h ∉ r.own := fun hmem => by simp [own, hforeign] at hmem
  show (r.handlers.erase h).filter _ = _
  rw [← List.erase_filter]
  exact List.erase_of_not_mem hmem

/-- The handlers of others are what the deeds of others make of them. -/
theorem others_perform (hs : deed.perform r = .ok s) : s.others = deed.onOthers r.others := by
  cases deed with
  | reroute call =>
    obtain ⟨number, -, -, rfl⟩ := reroute_eq_ok_iff.mp hs
    exact others_rerouted _ _ r
  | add h hforeign =>
    obtain rfl := Except.ok.inj hs
    -- Such a handler is there already just if it is among those of others.
    have hmem : h ∈ r.others ↔ h ∈ r.handlers := by simp [others, hforeign]
    rw [others, add, Deed.onOthers, if_congr hmem rfl rfl]
    split
    · rfl
    · simp [List.filter_append, hforeign, others]
  | remove h hforeign =>
    obtain rfl := Except.ok.inj hs
    exact (List.erase_filter ..).symm

/-- Nothing leaves the ledger, and a call closes all that is in it. -/
theorem ledger_prefix_perform (hs : deed.perform r = .ok s) : r.ledger <+: s.ledger := by
  cases deed with
  | reroute call =>
    obtain ⟨number, -, -, rfl⟩ := reroute_eq_ok_iff.mp hs
    exact List.prefix_append _ _
  | add h hforeign =>
    obtain rfl := Except.ok.inj hs
    rw [ledger, ledger, own_add hforeign]
    exact List.prefix_refl _
  | remove h hforeign =>
    obtain rfl := Except.ok.inj hs
    rw [ledger, ledger, own_remove hforeign]
    exact List.prefix_refl _

/-- The handlers that a call attaches have the next numbers, in their order. -/
theorem serial_of_mem_ownHandlers {number : Nat} {path? : Option String}
    (hmem : h ∈ ownHandlers number path?) :
    number ≤ h.serial ∧ h.serial < number + (ownHandlers number path?).length := by
  cases path? with
  | none =>
    obtain rfl := List.mem_singleton.mp hmem
    exact ⟨Nat.le_refl _, Nat.lt_succ_self _⟩
  | some path =>
    simp only [ownHandlers, Option.toList_some, List.map_cons, List.map_nil, List.mem_cons,
      List.not_mem_nil, or_false] at hmem
    rcases hmem with rfl | rfl <;> simp [ownHandlers]

theorem pairwise_ownHandlers (number : Nat) (path? : Option String) :
    (ownHandlers number path?).Pairwise (·.serial < ·.serial) := by
  cases path? <;> simp [ownHandlers]

namespace Numbered

theorem rerouted (hr : r.Numbered) (level : Nat) (path? : Option String) :
    (r.rerouted level path?).Numbered := by
  have hledger : ∀ h ∈ r.ledger, h.serial < r.issued := by
    intro h hmem
    apply hr.below
    rcases List.mem_append.mp hmem with hclosed | hown
    · exact List.mem_append_left _ hclosed
    · exact List.mem_append_right _ (List.mem_filter.mp hown).1
  constructor
  · intro h hmem
    rcases List.mem_append.mp hmem with hclosed | hown
    · exact hr.own_of_closed h hclosed
    · exact (List.mem_filter.mp hown).2
  · -- What is attached comes behind all that was there, and has greater numbers.
    rw [ledger, own_rerouted]
    refine List.pairwise_append.mpr ⟨hr.increasing, pairwise_ownHandlers _ _, ?_⟩
    intro h hmem new hnew
    exact Nat.lt_of_lt_of_le (hledger h hmem) (serial_of_mem_ownHandlers hnew).1
  · intro h hmem
    show h.serial < r.issued + (ownHandlers r.issued path?).length
    rcases List.mem_append.mp hmem with hclosed | hheld
    · exact Nat.lt_add_right _ (hledger h hclosed)
    · rcases List.mem_append.mp hheld with hothers | hown
      · apply Nat.lt_add_right
        exact hr.below h (List.mem_append_right _ (List.mem_filter.mp hothers).1)
      · exact (serial_of_mem_ownHandlers hown).2

theorem add (hr : r.Numbered) (hforeign : h.isOwn = false) : (r.add h).Numbered := by
  refine ⟨hr.own_of_closed, ?_, fun other hmem => ?_⟩
  · rw [ledger, own_add hforeign]
    exact hr.increasing
  · -- It is the handler that was added, or one that was there before.
    have hold : other = h ∨ other ∈ r.closed ++ r.handlers := by
      rcases List.mem_append.mp hmem with hclosed | hheld
      · exact .inr (List.mem_append_left _ hclosed)
      · simp only [Router.add] at hheld
        split at hheld
        · exact .inr (List.mem_append_right _ hheld)
        · rcases List.mem_append.mp hheld with hheld | hnew
          · exact .inr (List.mem_append_right _ hheld)
          · exact .inl (List.mem_singleton.mp hnew)
    show other.serial < max r.issued (h.serial + 1)
    rcases hold with rfl | hold
    · omega
    · have hbelow := hr.below other hold
      omega

theorem remove (hr : r.Numbered) (hforeign : h.isOwn = false) : (r.remove h).Numbered := by
  refine ⟨hr.own_of_closed, ?_, fun other hmem => ?_⟩
  · rw [ledger, own_remove hforeign]
    exact hr.increasing
  · apply hr.below
    rcases List.mem_append.mp hmem with hclosed | hheld
    · exact List.mem_append_left _ hclosed
    · exact List.mem_append_right _ (List.mem_of_mem_erase hheld)

/-- Whatever happens, no number is given twice. -/
theorem perform (hr : r.Numbered) (hs : deed.perform r = .ok s) : s.Numbered := by
  cases deed with
  | reroute call =>
    obtain ⟨number, -, -, rfl⟩ := reroute_eq_ok_iff.mp hs
    exact hr.rerouted _ _
  | add h hforeign =>
    obtain rfl := Except.ok.inj hs
    exact hr.add hforeign
  | remove h hforeign =>
    obtain rfl := Except.ok.inj hs
    exact hr.remove hforeign

end Numbered

/-- A new handler is numbered anew, so it is not there already, and is added behind the others. -/
theorem attach_eq_add (hr : r.Numbered) (name : Option String) (target : Target) :
    r.attach name target = r.add ⟨r.issued, name, target⟩ := by
  have hnew : (⟨r.issued, name, target⟩ : Handler) ∉ r.handlers := by
    intro hmem
    exact Nat.lt_irrefl _ (hr.below _ (List.mem_append_right _ hmem))
  rw [attach, add, if_neg hnew]
  simp

/-! ## All that happens -/

/-- **Handlers of others come and go as if there were no calls.** -/
theorem others_after? (hs : start.after? deeds = .ok s) :
    s.others = deeds.foldl (fun hs deed => deed.onOthers hs) start.others := by
  -- by induction on the history, from its end: what happens last meets what the rest has left
  induction deeds using List.reverseRecOn generalizing s with
  | nil =>
    obtain rfl := Except.ok.inj hs
    rfl
  | append_singleton deeds deed ih =>
    obtain ⟨r, hr, hdeed⟩ := after?_snoc_eq_ok_iff.mp hs
    rw [others_perform hdeed, ih hr, List.foldl_append]
    rfl

/-- **Nothing leaves the ledger.** -/
theorem ledger_prefix_after? (hs : start.after? deeds = .ok s) : start.ledger <+: s.ledger := by
  induction deeds using List.reverseRecOn generalizing s with
  | nil =>
    obtain rfl := Except.ok.inj hs
    exact List.prefix_refl _
  | append_singleton deeds deed ih =>
    obtain ⟨r, hr, hdeed⟩ := after?_snoc_eq_ok_iff.mp hs
    exact (ih hr).trans (ledger_prefix_perform hdeed)

/-- **No own handler is attached twice.** -/
theorem Numbered.after? (hstart : start.Numbered) (hs : start.after? deeds = .ok s) :
    s.Numbered := by
  induction deeds using List.reverseRecOn generalizing s with
  | nil =>
    obtain rfl := Except.ok.inj hs
    exact hstart
  | append_singleton deeds deed ih =>
    obtain ⟨r, hr, hdeed⟩ := after?_snoc_eq_ok_iff.mp hs
    exact (ih hr).perform hdeed

/-- A log on which nothing has happened is numbered. -/
theorem numbered_empty : ({} : Router).Numbered := ⟨nofun, .nil, nofun⟩

/-- The ledger names no handler twice. -/
theorem Numbered.nodup_ledger (hr : r.Numbered) : r.ledger.Nodup :=
  hr.increasing.imp fun hlt heq => Nat.ne_of_lt hlt (congrArg Handler.serial heq)

/-- A handler that is closed is held no more. -/
theorem Numbered.not_mem_handlers (hr : r.Numbered) (hmem : h ∈ r.closed) : h ∉ r.handlers := by
  intro hheld
  have hown : h ∈ r.own := List.mem_filter.mpr ⟨hheld, hr.own_of_closed h hmem⟩
  exact (List.nodup_append.mp hr.nodup_ledger).2.2 h hmem h hown rfl

end Router

/-! ## What a call asks for -/

section

variable {env : Environment} {level file : Option String} {name path : String}

theorem levelName_of_given (h : level = some name) (hname : name ≠ "") :
    levelName env level = name := by
  have hgiven : given level = some name := by
    rw [h, given, Option.filter_some, if_pos (by simpa using hname)]
  rw [levelName, hgiven, Option.getD_some]

theorem levelName_of_not_given (h : ∀ name, level = some name → name = "") :
    levelName env level = (env.get? levelVariable).getD Level.warning.name := by
  have hgiven : given level = none := by
    simpa [given, Option.filter_eq_none_iff] using h
  rw [levelName, hgiven, Option.getD_none]

/-- A file is asked for by an argument or a variable that is not empty. -/
theorem filePath_isSome_iff :
    (filePath env file).isSome = true ↔
      (∃ path, file = some path ∧ path ≠ "") ∨
        ∃ path, env.get? fileVariable = some path ∧ path ≠ "" := by
  simp [filePath, given, Environment.filled?, Option.isSome_filter, Option.any_eq_true]

end

/-! ## The log after a call -/

/-- **A call replaces the router's own handlers and no others.** Let calls that do not fail have
been made, and handlers of others been added and taken away, in any order. After one more such call
the handlers of others are those that were there before it, in their order, and they are what the
deeds of others alone have made of them. Behind them stands one own handler for the error stream,
and one for a file just if an argument or a variable names one. All that calls before it have
attached are closed; if no number had been given twice at the start, each was closed once and is
held no more. The level is that of the argument, or else that of the variable, or else that of a
warning. -/
theorem calls_replace_own {start s : Router} {deeds : List Deed} {call : Call}
    (h : start.after? (deeds ++ [.reroute call]) = .ok s) :
    ∃ r, start.after? deeds = .ok r ∧
      (s.handlers = r.others ++ s.own ∧
        s.own.map Handler.target =
          .errorStream :: (filePath call.env call.file).toList.map Target.file ∧
        ((filePath call.env call.file).isSome = true ↔
          (∃ path, call.file = some path ∧ path ≠ "") ∨
            ∃ path, call.env.get? fileVariable = some path ∧ path ≠ "")) ∧
      (s.others = r.others ∧
        s.others = deeds.foldl (fun hs deed => deed.onOthers hs) start.others) ∧
      (∀ front earlier back, deeds = front ++ .reroute earlier :: back →
        ∃ t, start.after? (front ++ [.reroute earlier]) = .ok t ∧ t.own ≠ [] ∧
          ∀ own ∈ t.own, own ∈ s.closed ∧ (start.Numbered → own ∉ s.handlers)) ∧
      (start.Numbered → s.closed.Nodup) ∧
      (∀ name, call.level = some name → name ≠ "" → levelNumber? name = some s.level) ∧
      ((∀ name, call.level = some name → name = "") →
        (∀ name, call.env.get? levelVariable = some name → levelNumber? name = some s.level) ∧
        (call.env.get? levelVariable = none → s.level = Level.warning.severity)) := by
  obtain ⟨r, hr, hcall⟩ := Router.after?_snoc_eq_ok_iff.mp h
  obtain ⟨number, hnumber, -, rfl⟩ := Router.reroute_eq_ok_iff.mp hcall
  -- The call alone decides its own handlers and the level; the rest is about the whole history.
  refine ⟨r, hr, ⟨?_, ?_, filePath_isSome_iff⟩, ⟨Router.others_rerouted _ _ r, ?_⟩, ?_, ?_, ?_, ?_⟩
  · rw [Router.own_rerouted]
    rfl
  · rw [Router.own_rerouted, ownHandlers, List.map_cons, List.map_map]
    rfl
  · rw [Router.others_rerouted]
    exact Router.others_after? hr
  · rintro front earlier back rfl
    -- The history is cut behind the earlier call, which has left `t`.
    rw [List.append_cons] at hr
    obtain ⟨t, ht, hback⟩ := Router.after?_append_eq_ok_iff.mp hr
    obtain ⟨q, -, hearlier⟩ := Router.after?_snoc_eq_ok_iff.mp ht
    obtain ⟨level, -, -, rfl⟩ := Router.reroute_eq_ok_iff.mp hearlier
    refine ⟨_, ht, ?_, fun own hown => ?_⟩
    · rw [Router.own_rerouted]
      exact List.cons_ne_nil _ _
    · -- It has been in the ledger since, and this call has closed all that was there.
      have hclosed : own ∈ r.ledger :=
        (Router.ledger_prefix_after? hback).subset (List.mem_append_right _ hown)
      refine ⟨hclosed, fun hstart => ?_⟩
      exact (hstart.after? h).not_mem_handlers hclosed
  · intro hstart
    exact (List.nodup_append.mp (hstart.after? h).nodup_ledger).1
  · intro name hname hfilled
    rw [levelName_of_given hname hfilled] at hnumber
    exact hnumber
  · intro hnone
    rw [levelName_of_not_given hnone] at hnumber
    refine ⟨fun name hname => ?_, fun hunset => ?_⟩
    · rw [hname] at hnumber
      exact hnumber
    · have hwarning : levelNumber? Level.warning.name = some Level.warning.severity := by
        decide +kernel
      rw [hunset] at hnumber
      exact Option.some.inj (hnumber.symm.trans hwarning)

/-- A handler of somebody else, by its number. -/
def guest (number : Nat) : Handler := ⟨number, some "guest", .elsewhere⟩

/-- Two handlers are added, a call logs to a file, and one of the two is taken away again. -/
def guestsComeAndGo : List Deed :=
  [.add (guest 0) rfl, .add (guest 1) rfl,
    .reroute { level := some "debug", file := some "a.log", opens := fun _ => .ok () },
    .remove (guest 0) rfl]

/-- A call that the environment tells the level, and that names no file. -/
def quietCall : Call where
  level := some ""
  env := { bindings := [(levelVariable, "Error"), (fileVariable, "")] }
  opens := fun path => .error (AccessFault.missing.failure path)

/-- The second call closes both handlers of the first, and leaves the one that a guest has left. -/
theorem calls_replace_own_guests :
    let s : Router := {
      level := 40
      handlers := [guest 1, ⟨4, some ownName, .errorStream⟩]
      closed := [⟨2, some ownName, .errorStream⟩, ⟨3, some ownName, .file "a.log"⟩]
      issued := 5 }
    ({} : Router).after? (guestsComeAndGo ++ [.reroute quietCall]) = .ok s ∧
      s.others = [guest 1] ∧
      (∃ t, ({} : Router).after? (guestsComeAndGo.take 3) = .ok t ∧ t.own ≠ [] ∧
        ∀ own ∈ t.own, own ∈ s.closed ∧ own ∉ s.handlers) ∧
      s.closed.Nodup ∧ levelNumber? "Error" = some s.level := by
  intro s
  have hlog : ({} : Router).after? (guestsComeAndGo ++ [.reroute quietCall]) = .ok s := by
    decide +kernel
  obtain ⟨r, -, -, ⟨-, hothers⟩, hearlier, hclosed, -, hlevel⟩ := calls_replace_own hlog
  obtain ⟨t, ht, hown, hreplaced⟩ := hearlier (guestsComeAndGo.take 2) _ _ rfl
  have hempty : ∀ name, quietCall.level = some name → name = "" := by
    rintro name ⟨⟩
    rfl
  refine ⟨hlog, hothers.trans (by decide +kernel), ⟨t, ht, hown, fun own hmem => ?_⟩,
    hclosed Router.numbered_empty, (hlevel hempty).1 "Error" (by decide +kernel)⟩
  exact ⟨(hreplaced own hmem).1, (hreplaced own hmem).2 Router.numbered_empty⟩

end PromptLoop.Log
