/-
# ScenarioGraph.Toml.Reader -- reading a settings text

A text is a list of statements, one a line: a key with its value, or a header
for the keys below it.  `read` gives the entries of the top table; nothing when
the text is malformed or says something twice.
-/
import ScenarioGraph.Toml.Scalar
import ScenarioGraph.Toml.Text

namespace ScenarioGraph.Toml

set_option autoImplicit false

open Text

/-- How deep values may nest, and how many names a key may have. -/
def depthLimit : Nat := 79

/-! ## Blanks and comments -/

/-- Blanks, line ends and comments, up to the next character of a value.  A comment ends
with its line. -/
def skipGap (inComment : Bool) (chars : List Char) : Option (Rest chars) :=
  match chars with
  | [] => if inComment then none else some ⟨[], Nat.le_refl _⟩
  | c :: rest =>
      match lineEnd? (c :: rest) with
      | some ends => do
          have := Nat.le_of_lt_succ ends.shorter
          let found ← skipGap false ends.rest
          some ⟨found.1, Nat.le_trans found.2 ends.left.2⟩
      | none =>
          if ¬ inComment ∧ ¬ isBlank c ∧ c ≠ '#' then some ⟨c :: rest, Nat.le_refl _⟩
          else if isPlain c then do
            let found ← skipGap (inComment || c = '#') rest
            some ⟨found.1, Nat.le_succ_of_le found.2⟩
          else none
termination_by chars.length

/-- A line end or the end of the text, and what follows it. -/
def lineEndOrEnd? (chars : List Char) : Option (Rest chars) :=
  match chars with
  | [] => some ⟨[], Nat.le_refl _⟩
  | c :: rest => (lineEnd? (c :: rest)).map Taken.left

/-- The end of a line after blanks and perhaps a comment. -/
def lineRest? (chars : List Char) : Option (Rest chars) := do
  let margin := skip isBlank chars
  let comment := skip (fun c => margin.1.head? = some '#' && isPlain c) margin.1
  let found ← lineEndOrEnd? comment.1
  some ⟨found.1, Nat.le_trans found.2 (Nat.le_trans comment.2 margin.2)⟩

/-! ## Keys -/

/-- Characters of names without quotes. -/
def isNameChar (c : Char) : Bool := c.isAlphanum || c = '_' || c = '-'

def name? (chars : List Char) : Option (Taken chars String) :=
  match chars with
  | '"' :: rest => line? ('"' :: rest)
  | '\'' :: rest => line? ('\'' :: rest)
  | chars => (takeSome isNameChar chars).map (·.map String.ofList)

/-- Names with points between them and blanks around them. -/
def names? (chars : List Char) : Option (Taken chars Key) := do
  let margin := skip isBlank chars
  let name ← name? margin.1
  let gap := skip isBlank name.rest
  have toGap := Nat.lt_of_le_of_lt gap.2 (Nat.lt_of_lt_of_le name.shorter margin.2)
  match h : gap.1 with
  | '.' :: rest =>
      have toRest : rest.length < chars.length := by
        rw [h, List.length_cons] at toGap
        omega
      let more ← names? rest
      some ⟨⟨name.result :: more.result.path, more.result.name⟩, more.rest,
        Nat.lt_trans more.shorter toRest⟩
  | _ => some ⟨⟨[], name.result⟩, gap.1, toGap⟩
termination_by chars.length

def key? (chars : List Char) : Option (Taken chars Key) := do
  let key ← names? chars
  guard (key.result.path.length < depthLimit)
  some key

/-- A key with the sign after it and the blanks after that. -/
def keyOf? (chars : List Char) : Option (Taken chars Key) := do
  let key ← key? chars
  match h : key.rest with
  | '=' :: rest =>
      let gap := skip isBlank rest
      some (key.dropTo ⟨gap.1, by
        rw [h]
        exact Nat.le_succ_of_le gap.2⟩)
  | _ => none

/-! ## Values -/

/-- A time of the day after one blank. -/
def clockAfter? (chars : List Char) : Option (Taken chars Unit) :=
  match chars with
  | ' ' :: rest => do
      let word ← takeSome isBare rest
      guard (isClock word.result)
      some (word.map fun _ => ()).afterFirst
  | _ => none

/-- A value without quotes and brackets; a date may have a time after a blank. -/
def bare? (chars : List Char) : Option (Taken chars Toml) := do
  let word ← takeSome isBare chars
  match if isDate word.result then clockAfter? word.rest else none with
  | some clock => some ⟨.moment, clock.rest, Nat.lt_trans clock.shorter word.shorter⟩
  | none =>
      let found ← scalar? word.result
      some (word.map fun _ => found)

mutual

/-- A value; `depth` more may be opened inside each other. -/
def value? (depth : Nat) (chars : List Char) : Option (Taken chars Toml) :=
  match chars with
  | '[' :: rest =>
      if 0 < depth then do
        let found ← items? (depth - 1) rest
        some (found.map .array).afterFirst
      else none
  | '\x7b' :: rest =>
      let margin := skip isBlank rest
      have _ : (skip isBlank rest).1.length ≤ rest.length := (skip isBlank rest).2
      if depth = 0 then none
      else
        match h : margin.1 with
        | '\x7d' :: after =>
            some ⟨.table .inline [], after, by
              have size := margin.2
              rw [h, List.length_cons] at size
              exact Nat.lt_succ_of_lt size⟩
        | _ => do
            let found ← settings? (depth - 1) margin.1
            let entries ← defineAll found.result []
            some ((found.map fun _ => .table .inline entries).widen (Nat.le_succ_of_le margin.2))
  | '"' :: rest => (text? ('"' :: rest)).map (·.map .text)
  | '\'' :: rest => (text? ('\'' :: rest)).map (·.map .text)
  | chars => bare? chars
termination_by 2 * chars.length
decreasing_by
  all_goals simp only [List.length_cons]
  all_goals omega

/-- The items of an array, up to its bracket. -/
def items? (depth : Nat) (chars : List Char) : Option (Taken chars (List Toml)) := do
  let here ← skipGap false chars
  match h : here.1 with
  | ']' :: rest =>
      some ⟨[], rest, by
        have size := here.2
        rw [h, List.length_cons] at size
        exact size⟩
  | _ =>
      have toHere : here.1.length ≤ chars.length := here.2
      let item ← value? depth here.1
      let gap ← skipGap false item.rest
      have toGap := Nat.lt_of_le_of_lt gap.2 (Nat.lt_of_lt_of_le item.shorter toHere)
      match h : gap.1 with
      | ',' :: rest =>
          have toRest : rest.length < chars.length := by
            rw [h, List.length_cons] at toGap
            omega
          let more ← items? depth rest
          some ⟨item.result :: more.result, more.rest, Nat.lt_trans more.shorter toRest⟩
      | ']' :: rest =>
          some ⟨[item.result], rest, by
            rw [h, List.length_cons] at toGap
            omega⟩
      | _ => none
termination_by 2 * chars.length + 1
decreasing_by all_goals omega

/-- Keys with values on one line, up to the closing brace. -/
def settings? (depth : Nat) (chars : List Char) : Option (Taken chars (List (Key × Toml))) := do
  let key ← keyOf? chars
  have toValue : key.rest.length < chars.length := key.shorter
  let found ← value? depth key.rest
  let gap := skip isBlank found.rest
  have toGap := Nat.lt_of_le_of_lt gap.2 (Nat.lt_trans found.shorter toValue)
  match h : gap.1 with
  | ',' :: rest =>
      have toRest : rest.length < chars.length := by
        rw [h, List.length_cons] at toGap
        omega
      let more ← settings? depth rest
      some ⟨(key.result, found.result) :: more.result, more.rest,
        Nat.lt_trans more.shorter toRest⟩
  | '\x7d' :: rest =>
      some ⟨[(key.result, found.result)], rest, by
        rw [h, List.length_cons] at toGap
        omega⟩
  | _ => none
termination_by 2 * chars.length
decreasing_by all_goals omega

end

/-! ## Statements -/

inductive Statement where
  | header (header : Header)
  | setting (key : Key) (value : Toml)

/-- What follows the bracket wanted. -/
def close? (bracket : List Char) (chars : List Char) : Option (Rest chars) :=
  if bracket.isPrefixOf chars then some ⟨chars.drop bracket.length, by simp⟩ else none

/-- A header between its brackets. -/
def headerIn? (closing : List Char) (make : Key → Header) (chars : List Char) :
    Option (Taken chars Statement) := do
  let key ← key? chars
  let rest ← close? closing key.rest
  some ((key.dropTo rest).map fun key => .header (make key))

def statement? (chars : List Char) : Option (Taken chars Statement) :=
  match chars with
  | '[' :: '[' :: rest =>
      (headerIn? [']', ']'] .item rest).map fun found => found.afterFirst.afterFirst
  | '[' :: rest => (headerIn? [']'] .table rest).map Taken.afterFirst
  | chars => do
      let key ← keyOf? chars
      let found ← value? depthLimit key.rest
      some ((found.map fun value => .setting key.result value).widen (Nat.le_of_lt key.shorter))

/-- The statements of a text; lines may be blank or hold a comment alone. -/
def statements? (chars : List Char) : Option (List Statement) :=
  match chars with
  | [] => some []
  | c :: rest =>
      if isBlank c then statements? rest
      else
        match lineEnd? (c :: rest) with
        | some ends =>
            have := Nat.le_of_lt_succ ends.shorter
            statements? ends.rest
        | none =>
            if c = '#' then do
              let comment := skip isPlain rest
              let ends ← lineEndOrEnd? comment.1
              have _ : ends.1.length ≤ rest.length := Nat.le_trans ends.2 comment.2
              statements? ends.1
            else do
              let statement ← statement? (c :: rest)
              let ends ← lineRest? statement.rest
              have _ : ends.1.length ≤ rest.length :=
                Nat.le_of_lt_succ (Nat.lt_of_le_of_lt ends.2 statement.shorter)
              let more ← statements? ends.1
              some (statement.result :: more)
termination_by chars.length

/-- The settings above the first header, and those below each header. -/
def sections : List Statement → List (Key × Toml) × List (Header × List (Key × Toml))
  | [] => ([], [])
  | .setting key value :: rest =>
      let (settings, more) := sections rest
      ((key, value) :: settings, more)
  | .header header :: rest =>
      let (settings, more) := sections rest
      ([], (header, settings) :: more)

/-- The entries of a text; it may start with a byte order mark. -/
def read (text : String) : Option Entries := do
  let chars := text.toList
  let (top, more) :=
    sections (← statements? (if chars.head? = some '\ufeff' then chars.tail else chars))
  more.foldlM (fun entries (header, settings) => addSection header settings entries)
    (← defineAll top [])

end ScenarioGraph.Toml
