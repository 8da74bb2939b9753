import PromptLoop.Failure.Index

/-!
# Padding

Blanks whose number is computed. A negative number asks for none. A number that is no index is
refused, and so is one that asks for more blanks than memory holds. How many that is depends on the
machine, so it is given with every request.

## Main definitions

* `Padding.blanks`: as many blanks as a number asks for
* `Padding.limit`: the most blanks that memory and indices allow
* `Padding.length?`, `Padding.blanks?`: the same, refusing numbers that are out of bounds

## Main results

* `Padding.blanks?_eq`: within the bounds nothing is refused
* `Padding.eq_blanks_of_blanks?`, `Padding.fits_of_blanks?`: what is not refused is as many blanks
  as asked for, within the bounds
-/

namespace PromptLoop.Padding

/-- As many blanks fit in memory where nothing else is said: the 36th power of two. -/
def usualMemory : Nat := 0x1000000000

/-- The most blanks that there can be: memory holds them, and their number is an index. -/
def limit (memory : Nat) : Int := min (memory : Int) (indexBound - 1)

/-- The memory does not hold the blanks. -/
def noMemory : Failure := .raised .memory none

/-- As many blanks as a number asks for. -/
def blanks (n : Int) : List Char := List.replicate n.toNat ' '

/-- How many blanks a number asks for, unless it is out of bounds. -/
def length? (memory : Nat) (n : Int) : Except Failure Nat :=
  if ¬IsIndex n then .error (noIndex .overflow)
  else if memory < n then .error noMemory
  else .ok n.toNat

/-- As many blanks as a number asks for, unless it is out of bounds. -/
def blanks? (memory : Nat) (n : Int) : Except Failure (List Char) :=
  (length? memory n).map fun count => List.replicate count ' '

/-- A number within the bounds. -/
def Fits (memory : Nat) (n : Int) : Prop := -indexBound ≤ n ∧ n ≤ limit memory

variable {memory : Nat} {n : Int}

instance : Decidable (Fits memory n) := inferInstanceAs (Decidable (_ ∧ _))

theorem limit_nonneg (memory : Nat) : 0 ≤ limit memory := by
  have hindex : (0 : Int) ≤ indexBound - 1 := by decide
  rw [limit]
  omega

theorem Fits.isIndex (h : Fits memory n) : IsIndex n := by
  obtain ⟨hlow, hhigh⟩ := h
  rw [limit] at hhigh
  constructor <;> omega

/-- No blanks at all are always within the bounds. -/
theorem Fits.zero (memory : Nat) : Fits memory 0 := ⟨by decide, limit_nonneg memory⟩

theorem length?_eq (h : Fits memory n) : length? memory n = .ok n.toNat := by
  have hmemory : ¬ (memory : Int) < n := by
    have hlimit := h.2
    rw [limit] at hlimit
    omega
  rw [length?, if_neg (not_not_intro h.isIndex), if_neg hmemory]

/-- Within the bounds nothing is refused. -/
theorem blanks?_eq (h : Fits memory n) : blanks? memory n = .ok (blanks n) := by
  rw [blanks?, length?_eq h]; rfl

/-- What is not refused is as many blanks as asked for. -/
theorem eq_blanks_of_blanks? {cs : List Char} (h : blanks? memory n = .ok cs) :
    cs = blanks n := by
  rw [blanks?, length?] at h
  split at h
  · simp [Except.map] at h
  · split at h
    · simp [Except.map] at h
    · simpa [Except.map, blanks] using h.symm

/-- A number that is not refused is within the bounds. -/
theorem fits_of_blanks? {cs : List Char} (h : blanks? memory n = .ok cs) : Fits memory n := by
  rw [blanks?, length?] at h
  split at h
  · cases h
  · next hindex =>
    split at h
    · cases h
    · next hbound =>
      obtain ⟨hlow, hhigh⟩ := Classical.not_not.mp hindex
      refine ⟨hlow, ?_⟩
      rw [limit]
      omega

@[simp] theorem blanks_zero : blanks 0 = [] := rfl

@[simp] theorem blanks_length (n : Int) : (blanks n).length = n.toNat := by simp [blanks]

end PromptLoop.Padding
