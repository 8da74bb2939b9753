import PromptLoop.Failure.Kind

/-!
# Values and failures

The values that evaluated code shows, binds and returns, and the failures that reading a line or
running code raises. A failure is a value like any other, and may be raised with any value.

## Main definitions

* `Value`, `Failure`: a value, and a raised failure
* `Failure.kind`: the class of a failure
* `Value.typeName`: the name of a value's type
* `Value.same`, `Failure.same`: two values are the same, and two failures

## Main results

* `Value.same_iff`, `Failure.same_iff`: sameness is equality, which is therefore decidable
-/

namespace PromptLoop

mutual

/-- A value of evaluated code. -/
inductive Value
  | null
  | bool (b : Bool)
  | int (n : Int)
  | str (s : String)
  | list (items : List Value)
  /-- Keys with their values, in the order of their insertion. -/
  | dict (entries : List (String × Value))
  | failure (f : Failure)
  | failureClass (kind : FailureKind)
  /-- A class that is no class of failures. -/
  | plainClass (name : String)

/-- A failure raised while reading or running. -/
inductive Failure
  /-- A class with what it is raised with, if anything: a message, the code of an exit, or any other
  value. -/
  | raised (kind : FailureKind) (argument : Option Value)
  /-- Octets that are no UTF-8 from `start` up to `stop`. -/
  | undecodable (octets : List Nat) (start stop : Nat) (reason : String)

end

instance : Inhabited Value := ⟨.null⟩

namespace Failure

/-- A class with a message. -/
abbrev saying (kind : FailureKind) (message : String) : Failure :=
  .raised kind (some (.str message))

/-- The class of a failure. -/
def kind : Failure → FailureKind
  | .raised kind _ => kind
  | .undecodable .. => .unicodeDecode

@[simp] theorem kind_raised (kind : FailureKind) (argument : Option Value) :
    (Failure.raised kind argument).kind = kind := rfl

end Failure

namespace Value

/-- The name of a value's type. -/
def typeName : Value → String
  | .null => "NoneType"
  | .bool _ => "bool"
  | .int _ => "int"
  | .str _ => "str"
  | .list _ => "list"
  | .dict _ => "dict"
  | .failure f => f.kind.name
  | .failureClass _ => "type"
  | .plainClass _ => "type"

/-- The absent value. -/
def isNull : Value → Bool
  | .null => true
  | _ => false

/-- A value that counts as true: it is there, and neither zero nor empty. -/
def isTruthy : Value → Bool
  | .null => false
  | .bool b => b
  | .int n => n != 0
  | .str s => s != ""
  | .list items => !items.isEmpty
  | .dict entries => !entries.isEmpty
  | _ => true

end Value

/-! ## Sameness -/

mutual

/-- Two values are the same: of one kind, and the same in every part. -/
def Value.same : Value → Value → Bool
  | .null, .null => true
  | .bool a, .bool b => a == b
  | .int a, .int b => a == b
  | .str a, .str b => a == b
  | .list xs, .list ys => Value.sameItems xs ys
  | .dict xs, .dict ys => Value.sameEntries xs ys
  | .failure a, .failure b => a.same b
  | .failureClass a, .failureClass b => a == b
  | .plainClass a, .plainClass b => a == b
  | _, _ => false

/-- Two lists hold the same values. -/
def Value.sameItems : List Value → List Value → Bool
  | [], [] => true
  | v :: vs, w :: ws => v.same w && Value.sameItems vs ws
  | _, _ => false

/-- Two lists hold the same keys with the same values. -/
def Value.sameEntries : List (String × Value) → List (String × Value) → Bool
  | [], [] => true
  | (key, v) :: vs, (other, w) :: ws => key == other && v.same w && Value.sameEntries vs ws
  | _, _ => false

/-- Two failures are the same: of one class, and raised with the same. -/
def Failure.same : Failure → Failure → Bool
  | .raised a none, .raised b none => a == b
  | .raised a (some v), .raised b (some w) => a == b && v.same w
  | .undecodable os i j r, .undecodable ps k l s => os == ps && i == k && j == l && r == s
  | _, _ => false

end

mutual

theorem Value.same_iff : (v w : Value) → (v.same w = true ↔ v = w)
  | .null, w => by cases w <;> simp [Value.same]
  | .bool _, w => by cases w <;> simp [Value.same]
  | .int _, w => by cases w <;> simp [Value.same]
  | .str _, w => by cases w <;> simp [Value.same]
  | .list items, w => by cases w <;> simp [Value.same, Value.sameItems_iff items]
  | .dict entries, w => by cases w <;> simp [Value.same, Value.sameEntries_iff entries]
  | .failure f, w => by cases w <;> simp [Value.same, Failure.same_iff f]
  | .failureClass _, w => by cases w <;> simp [Value.same]
  | .plainClass _, w => by cases w <;> simp [Value.same]

theorem Value.sameItems_iff : (vs ws : List Value) → (Value.sameItems vs ws = true ↔ vs = ws)
  | [], ws => by cases ws <;> simp [Value.sameItems]
  | v :: vs, ws => by cases ws <;> simp [Value.sameItems, Value.same_iff v, Value.sameItems_iff vs]

theorem Value.sameEntries_iff :
    (vs ws : List (String × Value)) → (Value.sameEntries vs ws = true ↔ vs = ws)
  | [], ws => by cases ws <;> simp [Value.sameEntries]
  | (key, v) :: vs, ws => by
    rcases ws with _ | ⟨⟨other, w⟩, ws⟩ <;>
      simp [Value.sameEntries, Value.same_iff v, Value.sameEntries_iff vs]

theorem Failure.same_iff : (f g : Failure) → (f.same g = true ↔ f = g)
  | .raised _ none, g => by rcases g with ⟨_, _ | _⟩ | _ <;> simp [Failure.same]
  | .raised _ (some v), g => by
    rcases g with ⟨_, _ | _⟩ | _ <;> simp [Failure.same, Value.same_iff v]
  | .undecodable .., g => by cases g <;> simp [Failure.same, and_assoc]

end

instance : DecidableEq Value := fun v w => decidable_of_iff (v.same w = true) (v.same_iff w)

instance : DecidableEq Failure := fun f g => decidable_of_iff (f.same g = true) (f.same_iff g)

end PromptLoop
