/-
# ScenarioGraph.Text.Scan -- reading characters from the front

What is read from the front of a text comes with the rest of it.  `Taken` says
that the rest is shorter, so that reading on ends; `Rest` says that it is not
longer.
-/

namespace ScenarioGraph.Text

set_option autoImplicit false

/-- A result read from the front of `chars`, with the shorter rest. -/
structure Taken (chars : List Char) (α : Type) where
  result : α
  rest : List Char
  shorter : rest.length < chars.length

/-- What is left of `chars`, perhaps all of it. -/
abbrev Rest (chars : List Char) : Type := { rest : List Char // rest.length ≤ chars.length }

namespace Taken

variable {α β : Type} {chars rest : List Char}

/-- What was read from a part of a text was read from the text. -/
def widen (taken : Taken rest α) (part : rest.length ≤ chars.length) : Taken chars α :=
  ⟨taken.result, taken.rest, Nat.lt_of_lt_of_le taken.shorter part⟩

/-- What was read after the first character was read from the whole. -/
def afterFirst {c : Char} (taken : Taken rest α) : Taken (c :: rest) α :=
  taken.widen (Nat.le_succ _)

def map (f : α → β) (taken : Taken chars α) : Taken chars β :=
  ⟨f taken.result, taken.rest, taken.shorter⟩

/-- The rest, as what is left of the text. -/
def left (taken : Taken chars α) : Rest chars := ⟨taken.rest, Nat.le_of_lt taken.shorter⟩

/-- Leave out more of the rest. -/
def dropTo (taken : Taken chars α) (rest : Rest taken.rest) : Taken chars α :=
  ⟨taken.result, rest.1, Nat.lt_of_le_of_lt rest.2 taken.shorter⟩

end Taken

/-- The characters before the first that is not among those wanted, if there are any. -/
def takeSome (wanted : Char → Bool) (chars : List Char) : Option (Taken chars (List Char)) :=
  match chars with
  | [] => none
  | c :: rest =>
      if wanted c then
        some ⟨c :: rest.takeWhile wanted, rest.dropWhile wanted,
          Nat.lt_succ_of_le (List.dropWhile_suffix wanted).length_le⟩
      else none

/-- Leave out characters from the front. -/
def skip (unwanted : Char → Bool) (chars : List Char) : Rest chars :=
  ⟨chars.dropWhile unwanted, (List.dropWhile_suffix unwanted).length_le⟩

end ScenarioGraph.Text
