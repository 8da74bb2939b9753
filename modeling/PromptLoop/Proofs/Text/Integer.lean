import PromptLoop.Proofs.Text.Blank
import PromptLoop.Text.Integer

/-!
# Numerals

A numeral is the text of a number without blanks, signs and underscores. It is read as the number
that it was written for, unless it has more digits than are read. The texts that are read as
integers are those that write one: blanks, a sign, and digits of any script with single underscores
between them.

## Main definitions

* `Underscored`: digits with underscores between them
* `Writes`: a text that writes an integer

## Main results

* `exists_spells`: the digits of a numeral
* `forall_mem_toString`: what the characters of a numeral are
* `integer?_toString`: what a numeral is read as
* `integer?_eq_some_iff`: a text is read as the integer that it writes
-/

namespace PromptLoop.Text

variable {n : Nat} {ds : List Nat}

theorem digit?_digitChar : ∀ d < 10, digit? d.digitChar = some d := by
  decide

theorem moreDigits?_map (h : ∀ d ∈ ds, d < 10) :
    moreDigits? (ds.map Nat.digitChar) = some ds := by
  induction ds with
  | nil => rfl
  | cons d ds ih =>
    obtain ⟨hd, hds⟩ := List.forall_mem_cons.mp h
    have hplain : ∀ d < 10, d.digitChar ≠ '_' := by decide
    rw [List.map_cons, moreDigits?, digit?_digitChar d hd, ih hds]
    · rfl
    · intro c cs hc
      exact absurd hc (hplain d hd)

theorem ofDigits_append (ds : List Nat) (d : Nat) :
    ofDigits (ds ++ [d]) = 10 * ofDigits ds + d := by
  rw [ofDigits, List.foldl_append]
  rfl

/-- Digits that spell a number. -/
structure Spells (ds : List Nat) (n : Nat) : Prop where
  numeral : (toString n).toList = ds.map Nat.digitChar
  ne_nil : ds ≠ []
  lt_ten : ∀ d ∈ ds, d < 10
  value : ofDigits ds = n

/-- **The digits of a numeral.** -/
theorem exists_spells (n : Nat) : ∃ ds, Spells ds n := by
  -- by induction on the number of digits: the last one is split off
  induction n using Nat.strongRecOn with
  | ind n ih =>
    have hlist : (toString n).toList = Nat.toDigits 10 n := Nat.toList_repr
    by_cases hn : n < 10
    · refine ⟨[n], ?_, List.cons_ne_nil n [], ?_, ?_⟩
      · rw [hlist, Nat.toDigits_of_lt_base hn]
        rfl
      · intro d hd
        rwa [List.mem_singleton.mp hd]
      · rw [← List.nil_append [n], ofDigits_append]
        exact Nat.zero_add n
    · obtain ⟨ds, hds⟩ := ih (n / 10) (by omega)
      refine ⟨ds ++ [n % 10], ?_, List.append_ne_nil_of_right_ne_nil ds (List.cons_ne_nil _ _),
        ?_, ?_⟩
      · have hfront : (toString (n / 10)).toList = Nat.toDigits 10 (n / 10) := Nat.toList_repr
        rw [hlist, Nat.toDigits_of_base_le (by decide) (Nat.not_lt.mp hn), ← hfront, hds.numeral,
          List.map_append, List.map_singleton]
      · intro d hd
        rcases List.mem_append.mp hd with hd | hd
        · exact hds.lt_ten d hd
        · rw [List.mem_singleton.mp hd]
          exact Nat.mod_lt n (by decide)
      · rw [ofDigits_append, hds.value]
        exact Nat.div_add_mod n 10

/-- What holds of the ten digits holds of every character of a numeral. -/
theorem forall_mem_toString {p : Char → Prop} (h : ∀ d < 10, p d.digitChar) (n : Nat) :
    ∀ c ∈ (toString n).toList, p c := by
  intro c hc
  obtain ⟨ds, hds⟩ := exists_spells n
  rw [hds.numeral] at hc
  obtain ⟨d, hd, rfl⟩ := List.mem_map.mp hc
  exact h d (hds.lt_ten d hd)

/-- A numeral has no blanks. -/
theorem not_isBlank_of_mem_toString (n : Nat) : ∀ c ∈ (toString n).toList, isBlank c = false :=
  forall_mem_toString (by decide) n

theorem Spells.natural?_eq (h : Spells ds n) :
    natural? (toString n).toList = if (toString n).length ≤ maxDigits then some n else none := by
  have hlength : (toString n).length = ds.length := by
    rw [← String.length_toList, h.numeral, List.length_map]
  rw [hlength, h.numeral]
  obtain ⟨d, rest, rfl⟩ := List.exists_cons_of_ne_nil h.ne_nil
  obtain ⟨hd, hrest⟩ := List.forall_mem_cons.mp h.lt_ten
  have hdigits : digits? ((d :: rest).map Nat.digitChar) = some (d :: rest) := by
    rw [List.map_cons, digits?, digit?_digitChar d hd, moreDigits?_map hrest]
    rfl
  rw [natural?, hdigits, Option.bind_eq_bind, Option.bind_some, h.value]
  rfl

/-- **A numeral is read as the number that it was written for**, unless it is too long. -/
theorem integer?_toString (n : Nat) :
    integer? (toString n) = if (toString n).length ≤ maxDigits then some (n : Int) else none := by
  obtain ⟨ds, hds⟩ := exists_spells n
  have hnatural := hds.natural?_eq
  have hblank : ∀ c ∈ (toString n).toList, isNumberBlank c = false := by
    intro c hc
    rw [isNumberBlank, not_isBlank_of_mem_toString n c hc, Bool.false_and]
  have hsign : ∀ c ∈ (toString n).toList, c ≠ '-' ∧ c ≠ '+' := forall_mem_toString (by decide) n
  rw [integer?, dropWhile_eq_self hblank, dropEndWhile_eq_self hblank]
  split
  · next cs hcs => exact absurd rfl (hsign '-' (hcs ▸ List.mem_cons_self)).1
  · next cs hcs => exact absurd rfl (hsign '+' (hcs ▸ List.mem_cons_self)).2
  · rw [hnatural]
    split <;> rfl

/-! ## The texts that write integers -/

/-- Digits of any script with their values, and with single underscores between them. -/
inductive Underscored : List Char → List Nat → Prop
  | one {c : Char} {d : Nat} (h : digit? c = some d) : Underscored [c] [d]
  | next {c : Char} {d : Nat} {cs : List Char} {ds : List Nat} (h : digit? c = some d)
      (hcs : Underscored cs ds) : Underscored (c :: cs) (d :: ds)
  | apart {c : Char} {d : Nat} {cs : List Char} {ds : List Nat} (h : digit? c = some d)
      (hcs : Underscored cs ds) : Underscored (c :: '_' :: cs) (d :: ds)

/-- What may stand before the digits of an integer, and what it makes of their number. -/
def IsSigned (sign : List Char) (value : Nat) (n : Int) : Prop :=
  sign = ['-'] ∧ n = -(value : Int) ∨ (sign = ['+'] ∨ sign = []) ∧ n = value

/-- A text that writes an integer: digits, not more than are read, behind a sign if any, and blanks
around them. -/
def Writes (text : String) (n : Int) : Prop :=
  ∃ before sign digits after ds,
    text.toList = before ++ (sign ++ digits) ++ after ∧
      (∀ c ∈ before, isNumberBlank c = true) ∧ (∀ c ∈ after, isNumberBlank c = true) ∧
      Underscored digits ds ∧ ds.length ≤ maxDigits ∧ IsSigned sign (ofDigits ds) n

theorem exists_mem_of_inRanges {ranges : List (Nat × Nat)} {n : Nat}
    (h : inRanges ranges n = true) : ∃ r ∈ ranges, r.1 ≤ n ∧ n ≤ r.2 := by
  induction ranges with
  | nil => cases h
  | cons r ranges ih =>
    rw [inRanges] at h
    split at h
    · cases h
    · next hlow =>
      rcases Bool.or_eq_true_iff.mp h with hhigh | hrest
      · exact ⟨r, List.mem_cons_self, Nat.not_lt.mp hlow, of_decide_eq_true hhigh⟩
      · obtain ⟨r', hmem, hr'⟩ := ih hrest
        exact ⟨r', List.mem_cons_of_mem r hmem, hr'⟩

/-- A digit is no blank. -/
theorem isNumberBlank_of_digit? {c : Char} {d : Nat} (h : digit? c = some d) :
    isNumberBlank c = false := by
  have hapart : ∀ z ∈ decimalZeros, ∀ r ∈ blankRanges, r.2 < z ∨ z + 9 < r.1 := by
    decide
  obtain ⟨z, hz, -⟩ := Option.map_eq_some_iff.mp h
  have hdigit := List.find?_some hz
  rw [isNumberBlank, Bool.and_eq_false_iff]
  refine .inl (Bool.eq_false_iff.mpr fun hblank => ?_)
  obtain ⟨r, hr, hrange⟩ := exists_mem_of_inRanges hblank
  simp only [Bool.and_eq_true, decide_eq_true_eq] at hdigit
  have := hapart z (List.mem_of_find?_eq_some hz) r hr
  omega

theorem digit?_underscore : digit? '_' = none := by decide

/-- What may follow a digit: nothing, more digits, or an underscore and more digits. -/
def Continues (cs : List Char) (ds : List Nat) : Prop :=
  (cs = [] ∧ ds = []) ∨ Underscored cs ds ∨ ∃ rest, cs = '_' :: rest ∧ Underscored rest ds

theorem underscored_cons_iff {c : Char} {cs : List Char} :
    Underscored (c :: cs) ds ↔
      ∃ d, digit? c = some d ∧ ∃ rest, Continues cs rest ∧ d :: rest = ds := by
  constructor
  · intro h
    cases h with
    | one h => exact ⟨_, h, [], .inl ⟨rfl, rfl⟩, rfl⟩
    | next h hcs => exact ⟨_, h, _, .inr (.inl hcs), rfl⟩
    | apart h hcs => exact ⟨_, h, _, .inr (.inr ⟨_, rfl, hcs⟩), rfl⟩
  · rintro ⟨d, hd, rest, ⟨rfl, rfl⟩ | hcs | ⟨cs, rfl, hcs⟩, rfl⟩
    · exact .one hd
    · exact .next hd hcs
    · exact .apart hd hcs

theorem Underscored.exists_cons {cs : List Char} (h : Underscored cs ds) :
    ∃ c rest, cs = c :: rest ∧ (digit? c).isSome = true := by
  cases h with
  | one h => exact ⟨_, _, rfl, Option.isSome_of_eq_some h⟩
  | next h hcs => exact ⟨_, _, rfl, Option.isSome_of_eq_some h⟩
  | apart h hcs => exact ⟨_, _, rfl, Option.isSome_of_eq_some h⟩

/-- Digits start with a digit. -/
theorem Underscored.ne_of_cons {c : Char} {cs : List Char} (h : Underscored (c :: cs) ds)
    {other : Char} (hother : digit? other = none) : c ≠ other := by
  rintro rfl
  obtain ⟨d, hd, -⟩ := underscored_cons_iff.mp h
  rw [hother] at hd
  cases hd

theorem Underscored.not_blank {cs : List Char} (h : Underscored cs ds) :
    ∀ c ∈ cs, isNumberBlank c = false := by
  induction h with
  | one h => simpa using isNumberBlank_of_digit? h
  | next h hcs ih => simpa using ⟨isNumberBlank_of_digit? h, ih⟩
  | apart h hcs ih =>
    simp only [List.forall_mem_cons]
    exact ⟨isNumberBlank_of_digit? h, by decide, ih⟩

theorem moreDigits?_eq_some_iff {cs : List Char} :
    moreDigits? cs = some ds ↔ Continues cs ds := by
  induction cs using moreDigits?.induct generalizing ds with
  | case1 =>
    rw [moreDigits?]
    constructor
    · rintro ⟨⟩
      exact .inl ⟨rfl, rfl⟩
    · rintro (⟨-, rfl⟩ | h | ⟨rest, h, -⟩)
      · rfl
      · cases h
      · cases h
  | case2 c cs ih =>
    -- The underscore is no digit, so digits have to follow it.
    have hunderscore : Continues ('_' :: c :: cs) ds ↔ Underscored (c :: cs) ds := by
      constructor
      · rintro (⟨h, -⟩ | h | ⟨rest, h, hrest⟩)
        · cases h
        · exact absurd rfl (h.ne_of_cons digit?_underscore)
        · cases h
          exact hrest
      · exact fun h => .inr (.inr ⟨_, rfl, h⟩)
    rw [hunderscore, underscored_cons_iff, moreDigits?]
    simp [Option.bind_eq_some_iff, ih]
  | case3 c cs hplain ih =>
    have hdigit : Continues (c :: cs) ds ↔ Underscored (c :: cs) ds := by
      constructor
      · rintro (⟨h, -⟩ | h | ⟨rest, h, hrest⟩)
        · cases h
        · exact h
        · obtain ⟨c', rest', rfl, -⟩ := hrest.exists_cons
          cases h
          exact absurd rfl (hplain c' rest' rfl)
      · exact fun h => .inr (.inl h)
    rw [hdigit, underscored_cons_iff, moreDigits?]
    · simp [Option.bind_eq_some_iff, ih]
    · exact hplain

theorem digits?_eq_some_iff {cs : List Char} : digits? cs = some ds ↔ Underscored cs ds := by
  cases cs with
  | nil =>
    rw [digits?]
    exact ⟨nofun, nofun⟩
  | cons c cs =>
    rw [underscored_cons_iff, digits?]
    simp [Option.bind_eq_some_iff, moreDigits?_eq_some_iff]

theorem natural?_eq_some_iff {cs : List Char} {n : Nat} :
    natural? cs = some n ↔ ∃ ds, Underscored cs ds ∧ ds.length ≤ maxDigits ∧ ofDigits ds = n := by
  rw [natural?, Option.bind_eq_bind, Option.bind_eq_some_iff]
  simp only [digits?_eq_some_iff]
  refine exists_congr fun ds => and_congr_right fun _ => ?_
  by_cases hlength : ds.length ≤ maxDigits
  · simp [hlength]
  · simp [hlength]

theorem natural?_of_not_digit {c : Char} (h : digit? c = none) (cs : List Char) :
    natural? (c :: cs) = none := by
  simp [natural?, digits?, h]

theorem IsSigned.not_blank {sign : List Char} {value : Nat} {n : Int} (h : IsSigned sign value n) :
    ∀ c ∈ sign, isNumberBlank c = false := by
  rcases h with ⟨rfl, -⟩ | ⟨rfl | rfl, -⟩
  · exact List.forall_mem_singleton.mpr (by decide)
  · exact List.forall_mem_singleton.mpr (by decide)
  · exact List.forall_mem_nil _

/-- What is between the blanks is read as a sign and a number. -/
theorem integer?_eq_some_iff_exists {text : String} {n : Int} :
    integer? text = some n ↔ ∃ sign digits value,
      dropEndWhile isNumberBlank (text.toList.dropWhile isNumberBlank) = sign ++ digits ∧
        natural? digits = some value ∧ IsSigned sign value n := by
  rw [integer?]
  constructor
  · intro h
    split at h
    · next cs hcs =>
      simp only [Option.map_eq_some_iff, Option.bind_eq_bind, Option.bind_eq_some_iff,
        Option.pure_def, Option.some.injEq] at h
      obtain ⟨_, ⟨value, hvalue, rfl⟩, rfl⟩ := h
      exact ⟨['-'], cs, value, hcs, hvalue, .inl ⟨rfl, rfl⟩⟩
    · next cs hcs =>
      obtain ⟨value, hvalue, rfl⟩ := Option.map_eq_some_iff.mp h
      exact ⟨['+'], cs, value, hcs, hvalue, .inr ⟨.inl rfl, rfl⟩⟩
    · obtain ⟨value, hvalue, rfl⟩ := Option.map_eq_some_iff.mp h
      exact ⟨[], _, value, rfl, hvalue, .inr ⟨.inr rfl, rfl⟩⟩
  · rintro ⟨sign, digits, value, hcore, hvalue, ⟨rfl, rfl⟩ | ⟨rfl | rfl, rfl⟩⟩
    · rw [hcore]
      simp [hvalue]
    · rw [hcore]
      simp [hvalue]
    · -- A number does not start with a sign.
      rw [hcore, List.nil_append]
      split
      · rw [natural?_of_not_digit (by decide)] at hvalue
        cases hvalue
      · rw [natural?_of_not_digit (by decide)] at hvalue
        cases hvalue
      · rw [hvalue]
        rfl

/-- **A text is read as the integer that it writes.** -/
theorem integer?_eq_some_iff {text : String} {n : Int} :
    integer? text = some n ↔ Writes text n := by
  rw [integer?_eq_some_iff_exists]
  constructor
  · rintro ⟨sign, digits, value, hcore, hvalue, hsign⟩
    obtain ⟨ds, hdigits, hlength, rfl⟩ := natural?_eq_some_iff.mp hvalue
    obtain ⟨before, after, htext, hbefore, hafter⟩ :=
      exists_eq_append_dropEndWhile isNumberBlank text.toList
    rw [hcore] at htext
    exact ⟨before, sign, digits, after, ds, htext, hbefore, hafter, hdigits, hlength, hsign⟩
  · rintro ⟨before, sign, digits, after, ds, htext, hbefore, hafter, hdigits, hlength, hsign⟩
    have hvalue : natural? digits = some (ofDigits ds) :=
      natural?_eq_some_iff.mpr ⟨ds, hdigits, hlength, rfl⟩
    have hbare : ∀ c ∈ sign ++ digits, isNumberBlank c = false :=
      List.forall_mem_append.mpr ⟨hsign.not_blank, hdigits.not_blank⟩
    refine ⟨sign, digits, ofDigits ds, ?_, hvalue, hsign⟩
    rw [htext, dropEndWhile_dropWhile_append hbefore hbare hafter]

end PromptLoop.Text
