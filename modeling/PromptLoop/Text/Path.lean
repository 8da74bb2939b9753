/-!
# Paths

A path names a file by its parts between slashes. An empty part and a single dot stay where they
are, and two dots go back by one part. A path is normal when it holds no part that can be left out.

## Main definitions

* `pathParts`: the parts of a path
* `isRooted`: a path that starts at the root
* `normalParts`, `normalPath`: a path without the parts that can be left out

## Main results

* `mem_normalParts`: no part that is left stays where it is
* `normalParts_eq_self`: a path of plain names is normal
-/

namespace PromptLoop.Text

/-- The pieces of a text between slashes. -/
def slashPieces : List Char → List (List Char)
  | [] => [[]]
  | c :: cs =>
    if c = '/' then [] :: slashPieces cs
    else match slashPieces cs with
      | [] => [[c]]
      | piece :: rest => (c :: piece) :: rest

/-- The parts of a path, the empty ones with them. -/
def pathParts (path : String) : List String := (slashPieces path.toList).map String.ofList

/-- A path that starts at the root. -/
def isRooted (path : String) : Bool := path.toList.head? == some '/'

/-- A part that stays where it is. -/
def staysPut (part : String) : Bool := part == "" || part == "."

/-- The part that goes back by one. -/
def goingBack : String := ".."

/-- One part further, from a place given by its parts with the last one first: there is nothing to
go back to at the root, and everywhere else going back from nothing is a part of its own. -/
def further (rooted : Bool) (place : List String) (part : String) : List String :=
  if staysPut part then place
  else if part = goingBack then
    match place with
    | [] => if rooted then [] else [goingBack]
    | last :: rest => if last = goingBack then goingBack :: place else rest
  else part :: place

/-- The place that parts lead to from another place. -/
def place (rooted : Bool) : List String → List String → List String
  | start, [] => start
  | start, part :: parts => place rooted (further rooted start part) parts

/-- The parts of a path that cannot be left out. -/
def normalParts (path : String) : List String :=
  (place (isRooted path) [] (pathParts path)).reverse

/-- A path without the parts that can be left out. -/
def normalPath (path : String) : String :=
  let names := "/".intercalate (normalParts path)
  if isRooted path then "/" ++ names else if names = "" then "." else names

theorem further_of_plain {part : String} (h : staysPut part = false) (hb : part ≠ goingBack)
    (rooted : Bool) (start : List String) : further rooted start part = part :: start := by
  simp [further, h, hb]

/-- One part further no part stays put that did not before. -/
theorem staysPut_of_mem_further {rooted : Bool} {start : List String} {part name : String}
    (hstart : ∀ other ∈ start, staysPut other = false) (h : name ∈ further rooted start part) :
    staysPut name = false := by
  have hback : staysPut goingBack = false := by decide
  rw [further.eq_def] at h
  split at h
  · exact hstart name h
  · split at h
    · split at h
      · split at h
        · simp at h
        · rw [List.mem_singleton] at h; exact h ▸ hback
      · split at h
        · rcases List.mem_cons.1 h with h | h
          · exact h ▸ hback
          · exact hstart name h
        · exact hstart name (List.mem_cons_of_mem _ h)
    · next hput _ =>
      rcases List.mem_cons.1 h with h | h
      · rw [h]; simpa using hput
      · exact hstart name h

/-- No part of a place stays put. -/
theorem staysPut_of_mem_place {rooted : Bool} {start parts : List String} {name : String}
    (hstart : ∀ other ∈ start, staysPut other = false) (h : name ∈ place rooted start parts) :
    staysPut name = false := by
  induction parts generalizing start with
  | nil => exact hstart name h
  | cons part parts ih =>
    exact ih (fun other hother => staysPut_of_mem_further hstart hother) h

/-- No part that is left stays where it is. -/
theorem mem_normalParts {path name : String} (h : name ∈ normalParts path) :
    staysPut name = false :=
  staysPut_of_mem_place (fun _ hother => absurd hother List.not_mem_nil) (List.mem_reverse.1 h)

/-- Plain names lead further one by one. -/
theorem place_of_plain {parts : List String}
    (h : ∀ part ∈ parts, staysPut part = false ∧ part ≠ goingBack) (rooted : Bool)
    (start : List String) : place rooted start parts = parts.reverse ++ start := by
  induction parts generalizing start with
  | nil => rfl
  | cons part parts ih =>
    obtain ⟨hput, hback⟩ := h part List.mem_cons_self
    rw [place, further_of_plain hput hback, ih fun p hp => h p (List.mem_cons_of_mem _ hp)]
    simp

/-- A path of plain names is normal. -/
theorem normalParts_eq_self {path : String}
    (h : ∀ part ∈ pathParts path, staysPut part = false ∧ part ≠ goingBack) :
    normalParts path = pathParts path := by
  simp [normalParts, place_of_plain h]

example : normalPath ".//a.py" = "a.py" := by decide +kernel

example : normalPath "sub/../../x.log/" = "../x.log" := by decide +kernel

example : normalPath "/../a" = "/a" := by decide +kernel

end PromptLoop.Text
