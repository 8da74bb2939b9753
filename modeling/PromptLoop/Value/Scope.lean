import PromptLoop.Value.Basic

/-!
# Names and their values

## Main definitions

* `Scope`: names bound to values, in the order in which they were first bound
* `Scope.bind`, `Scope.merge`: binds a name, or those of another collection

## Main results

* `Scope.get?_bind_self`, `Scope.get?_bind_of_ne`: what binding a name changes
-/

namespace PromptLoop

/-- Names bound to values, in the order in which they were first bound. -/
abbrev Scope := List (String × Value)

namespace Scope

/-- The value bound to a name. -/
def get? (bs : Scope) (name : String) : Option Value := bs.lookup name

/-- Binds a name: in place of its earlier value, or at the end. -/
def bind : Scope → String → Value → Scope
  | [], name, v => [(name, v)]
  | (key, old) :: rest, name, v =>
    if key = name then (key, v) :: rest else (key, old) :: bind rest name v

/-- Binds a name that has no value yet. -/
def bindDefault (bs : Scope) (name : String) (v : Value) : Scope :=
  if (bs.get? name).isSome then bs else bs.bind name v

/-- Binds every name of another collection. -/
def merge (bs others : Scope) : Scope :=
  others.foldl (fun bs entry => bs.bind entry.1 entry.2) bs

@[simp] theorem get?_nil (name : String) : get? [] name = none := rfl

theorem get?_cons (key name : String) (v : Value) (bs : Scope) :
    get? ((key, v) :: bs) name = if name = key then some v else get? bs name := by
  simp only [get?, List.lookup_cons]
  by_cases h : name = key
  · simp [h]
  · have hb : (name == key) = false := by simpa using h
    simp [h, hb]

@[simp] theorem get?_bind_self (bs : Scope) (name : String) (v : Value) :
    (bs.bind name v).get? name = some v := by
  induction bs with
  | nil => simp [bind, get?_cons]
  | cons entry bs ih =>
    obtain ⟨key, old⟩ := entry
    by_cases h : key = name
    · simp [bind, h, get?_cons]
    · simp [bind, h, get?_cons, Ne.symm h, ih]

theorem get?_bind_of_ne (bs : Scope) {name other : String} (v : Value) (h : other ≠ name) :
    (bs.bind name v).get? other = bs.get? other := by
  induction bs with
  | nil => simp [bind, get?_cons, h]
  | cons entry bs ih =>
    obtain ⟨key, old⟩ := entry
    by_cases hk : key = name
    · subst hk; simp [bind, get?_cons, h]
    · simp [bind, hk, get?_cons, ih]

end Scope

end PromptLoop
