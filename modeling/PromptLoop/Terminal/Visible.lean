import PromptLoop.Terminal.Cursor

/-!
# The visible part of a text

A prompt may hold colour sequences, which a terminal obeys and does not show, and the two marks that
line editors put around them.

## Main definitions

* `Terminal.withoutMarks`: a text without the marks of line editors
* `Terminal.withoutControls`: a text without colour sequences
* `Terminal.visible`: what a terminal shows of a text

## Main results

* `Terminal.withoutControls_control`: a whole colour sequence vanishes
-/

namespace PromptLoop.Terminal

/-- A mark that line editors put around what is not shown. -/
def isMark (c : Char) : Bool := c == '\x01' || c == '\x02'

/-- A text without the marks of line editors. -/
def withoutMarks (cs : List Char) : List Char := cs.filter (!isMark ·)

/-- A character of the parameters of a colour sequence. -/
def isParameter (c : Char) : Bool := c.isDigit || c == ';'

/-- The text after the parameters and the final letter of a colour sequence. -/
def afterParameters? : List Char → Option (List Char)
  | [] => none
  | c :: cs => if isParameter c then afterParameters? cs else if c.isAlpha then some cs else none

/-- The text after the colour sequence that it starts with. -/
def afterControl? : List Char → Option (List Char)
  | '\x1b' :: '[' :: cs => afterParameters? cs
  | _ => none

theorem afterParameters?_length {cs rest : List Char} (h : afterParameters? cs = some rest) :
    rest.length < cs.length := by
  induction cs with
  | nil => simp [afterParameters?] at h
  | cons c cs ih =>
    rw [afterParameters?] at h
    split at h
    · exact Nat.lt_succ_of_lt (ih h)
    · split at h
      · cases h; simp
      · simp at h

theorem afterControl?_length {cs rest : List Char} (h : afterControl? cs = some rest) :
    rest.length < cs.length := by
  rw [afterControl?.eq_def] at h
  split at h
  · have := afterParameters?_length h
    simp only [List.length_cons]
    omega
  · simp at h

/-- A text without its colour sequences. -/
def withoutControls (cs : List Char) : List Char :=
  match h : afterControl? cs with
  | some rest =>
    have := afterControl?_length h
    withoutControls rest
  | none =>
    match cs with
    | [] => []
    | c :: rest => c :: withoutControls rest
termination_by cs.length

/-- What a terminal shows of a text. -/
def visible (cs : List Char) : List Char := withoutControls (withoutMarks cs)

@[simp] theorem withoutMarks_nil : withoutMarks [] = [] := rfl

@[simp] theorem withoutMarks_append (cs ds : List Char) :
    withoutMarks (cs ++ ds) = withoutMarks cs ++ withoutMarks ds := List.filter_append ..

@[simp] theorem withoutControls_nil : withoutControls [] = [] := by
  rw [withoutControls]
  rfl

/-- A character that starts no sequence stays. -/
theorem withoutControls_cons_of_ne {c : Char} (h : c ≠ escape) (cs : List Char) :
    withoutControls (c :: cs) = c :: withoutControls cs := by
  have hc : afterControl? (c :: cs) = none := by
    rw [afterControl?.eq_def]
    split
    · next heq => exact absurd (List.cons.inj heq).1 h
    · rfl
  rw [withoutControls]
  split
  · next heq => rw [hc] at heq; exact absurd heq (by simp)
  · rfl

theorem afterParameters?_append {parameters : List Char}
    (h : ∀ c ∈ parameters, isParameter c = true) {final : Char} (hp : isParameter final = false)
    (hf : final.isAlpha = true) (cs : List Char) :
    afterParameters? (parameters ++ final :: cs) = some cs := by
  induction parameters with
  | nil => simp [afterParameters?, hp, hf]
  | cons c parameters ih =>
    rw [List.cons_append, afterParameters?, if_pos (h c List.mem_cons_self)]
    exact ih fun c hc => h c (List.mem_cons_of_mem _ hc)

private theorem code_of_isAlpha {c : Char} (h : c.isAlpha = true) : 65 ≤ c.val.toNat := by
  rcases (Bool.or_eq_true _ _).mp h with hu | hl
  · exact UInt32.le_iff_toNat_le.mp (of_decide_eq_true hu).1
  · have ha : 97 ≤ c.val.toNat :=
      UInt32.le_iff_toNat_le.mp (of_decide_eq_true ((Bool.and_eq_true _ _).mp hl).1)
    omega

private theorem code_of_isDigit {c : Char} (h : c.isDigit = true) : c.val.toNat ≤ 57 :=
  UInt32.le_iff_toNat_le.mp (of_decide_eq_true ((Bool.and_eq_true _ _).mp h).2)

theorem isParameter_of_isAlpha {c : Char} (h : c.isAlpha = true) : isParameter c = false := by
  have hd : c.isDigit = false := by
    rw [Bool.eq_false_iff]
    intro hd
    have hlow := code_of_isAlpha h
    have hhigh := code_of_isDigit hd
    omega
  have hs : (c == ';') = false := by
    rw [beq_eq_false_iff_ne]
    rintro rfl
    exact absurd h (by decide)
  simp [isParameter, hd, hs]

/-- A whole colour sequence vanishes. -/
theorem withoutControls_control {parameters : List Char}
    (h : ∀ c ∈ parameters, isParameter c = true) {final : Char} (hf : final.isAlpha = true)
    (cs : List Char) :
    withoutControls (escape :: '[' :: parameters ++ final :: cs) = withoutControls cs := by
  have ha : afterControl? (escape :: '[' :: parameters ++ final :: cs) = some cs :=
    afterParameters?_append h (isParameter_of_isAlpha hf) hf cs
  rw [withoutControls]
  split
  · next heq => rw [ha] at heq; cases heq; rfl
  · next heq => rw [ha] at heq; exact absurd heq (by simp)

end PromptLoop.Terminal
