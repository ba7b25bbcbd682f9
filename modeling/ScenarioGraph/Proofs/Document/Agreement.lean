/-
# ScenarioGraph.Proofs.Document.Agreement -- the two readers of documents

The checked parser and the typed reader find the same fields and read labels, guards
and names alike.  They part at one place: the typed reader wants an object or an array
where an input is given, and reads an array by its places, while the parser looks for
fields and finds none in any other value.  So it takes a number or a text in place of
an input for an input without label and guard.  Checks and nodes need a name, hence
must be objects for both.

* `parseInput_agrees`: inputs, with `InputEntry.Shaped` as the exact condition.
* `read_of_parse_iff`: what the parser accepts the typed reader reads alike exactly if
  every input is given in one of those shapes.
* `parse_accepts_number_as_input`: the condition is needed.
-/
import ScenarioGraph.Proofs.Document.Parsing

namespace ScenarioGraph

set_option autoImplicit false

/-- The items of the list under a key; none if there is no such list. -/
def Json.itemsAt (json : Json) (key : String) : List Json :=
  ((json.get? key).bind asArray?).getD []

namespace Document

open Shape

variable {json : Json}

/-! ## Lists of entries -/

/-- Two readings of the same items agree where a condition holds of each item. -/
theorem forall₂_iff_of_agree {α β : Type} {first second : α → β → Prop} {agree : α → Prop}
    {items : List α} {values : List β} (read : List.Forall₂ first items values)
    (alike : ∀ item value, first item value → (second item value ↔ agree item)) :
    List.Forall₂ second items values ↔ ∀ item ∈ items, agree item := by
  induction read with
  | nil => simp
  | cons one _ ih => rw [List.forall₂_cons, List.forall_mem_cons, ih, alike _ _ one]

theorem listed_iff_of_agree {α : Type} {key : String} {first second : Json → α → Prop}
    {agree : Json → Prop} {values : List α} (read : Listed (json.get? key) first values)
    (alike : ∀ item value, first item value → (second item value ↔ agree item)) :
    Listed (json.get? key) second values ↔ ∀ item ∈ json.itemsAt key, agree item := by
  unfold Json.itemsAt
  cases found : json.get? key with
  | none =>
      rw [found] at read
      simpa [Listed] using read
  | some value =>
      rw [found] at read
      cases value with
      | arr items => exact forall₂_iff_of_agree read alike
      | _ => exact read.elim

theorem exists_of_listed {α : Type} {key : String} {stands : Json → α → Prop} {values : List α}
    (read : Listed (json.get? key) stands values) :
    ∀ item ∈ json.itemsAt key, ∃ value, stands item value := by
  unfold Json.itemsAt
  cases found : json.get? key with
  | none => simp
  | some value =>
      rw [found] at read
      cases value with
      | arr items => exact exists_forall₂_iff.1 ⟨_, read⟩
      | _ => exact read.elim

/-! ## Entries -/

/-- An input as it should be given: an object, or an array that gives neither a label
nor a guard. -/
def InputEntry.Shaped : Json → Prop
  | .obj _ => True
  | .arr items => items.length ≤ 2 ∧ ∀ item ∈ items, item = .null
  | _ => False

/-- An array is read by its places, all of which may be left out. -/
theorem InputEntry.read_arr_eq_blank_iff {items : List Json} :
    InputEntry.read (.arr items) = .ok ⟨none, none⟩ ↔
      items.length ≤ 2 ∧ ∀ item ∈ items, item = .null := by
  have opened : InputEntry.read (.arr items) = .ok ⟨none, none⟩ ↔
      readOptional readText items[0]? = .ok none ∧
        readOptional GuardEntry.read items[1]? = .ok none ∧ items.length ≤ 2 := by
    simp only [InputEntry.read, bind_eq_ok_iff]
    constructor
    · rintro ⟨label, readLabel, guard, readGuard, _, short, made⟩
      cases made
      refine ⟨readLabel, readGuard, ?_⟩
      by_contra long
      simp [noMore, Fields.count, long] at short
    · rintro ⟨readLabel, readGuard, short⟩
      exact ⟨_, readLabel, _, readGuard, (), by simp [noMore, Fields.count, short], rfl⟩
  rw [opened, readOptional_eq_ok_none_iff, readOptional_eq_ok_none_iff]
  rcases items with _ | ⟨first, _ | ⟨second, _ | ⟨third, rest⟩⟩⟩ <;> simp

/-- An input is read alike exactly if it has the right shape. -/
theorem parseInput_agrees {entry : InputEntry} (parsed : parseInput json = .ok entry) :
    InputEntry.read json = .ok entry ↔ InputEntry.Shaped json := by
  obtain ⟨readLabel, readGuard⟩ := parseInput_eq_ok_iff.1 parsed
  cases json with
  | obj fields => simpa [InputEntry.Shaped] using InputEntry.read_obj_eq_ok_iff.2 ⟨readLabel, readGuard⟩
  | arr items =>
      have blank : entry = ⟨none, none⟩ := by
        cases entry
        simp_all [Json.get?, readOptional, readIfAny]
      rw [blank]
      exact InputEntry.read_arr_eq_blank_iff
  | _ => simp [InputEntry.read, InputEntry.Shaped, wrong]

theorem parseCheck_agrees {entry : CheckEntry} (parsed : parseCheck json = .ok entry) :
    CheckEntry.read json = .ok entry := by
  rw [parseCheck_eq_ok_iff] at parsed
  cases json with
  | obj fields => exact CheckEntry.read_obj_eq_ok_iff.2 parsed
  | _ => simp [Json.get?] at parsed

theorem parseNode_agrees {index : Nat} {entry : NodeEntry}
    (parsed : parseNode index json = .ok entry) :
    NodeEntry.read json = .ok entry ↔ ∀ input ∈ json.itemsAt "inputs", InputEntry.Shaped input := by
  obtain ⟨named, -, predecessors, inputs, checks⟩ := parseNode_eq_ok_iff.1 parsed
  cases json with
  | obj fields =>
      have readChecks : Listed ((Json.obj fields).get? "checks")
          (fun item check => CheckEntry.read item = .ok check) entry.checks :=
        checks.mono fun item check made => parseCheck_agrees made
      have readInputs : Listed ((Json.obj fields).get? "inputs")
          (fun item input => InputEntry.read item = .ok input) entry.inputs ↔
          ∀ input ∈ (Json.obj fields).itemsAt "inputs", InputEntry.Shaped input :=
        listed_iff_of_agree inputs fun item input made => parseInput_agrees made
      rw [NodeEntry.read_obj_eq_ok_iff, ← readInputs]
      constructor
      · rintro ⟨-, -, read, -⟩
        exact read
      · intro read
        exact ⟨named, predecessors, read, readChecks⟩
  | _ => simp [Json.get?] at named

/-! ## Documents -/

theorem read_iff_shaped {document : Document} (parsed : parse json = .ok document) :
    read json = .ok document ↔
      ∀ node ∈ json.itemsAt "nodes", ∀ input ∈ node.itemsAt "inputs",
        InputEntry.Shaped input := by
  obtain ⟨foundId, foundVersion, -, readStart, items, listed, each⟩ := parse_eq_ok_iff.1 parsed
  have nodes : json.itemsAt "nodes" = items := by simp [Json.itemsAt, listed, Json.asArray?]
  have readNodes : List.Forall₂ (fun item node => NodeEntry.read item = .ok node) items
      document.nodes ↔
      ∀ node ∈ items, ∀ input ∈ node.itemsAt "inputs", InputEntry.Shaped input :=
    forall₂_iff_of_agree each fun item node made => parseNode_agrees made
  rw [nodes, ← readNodes]
  cases json with
  | obj fields =>
      rw [read_obj_eq_ok_iff]
      constructor
      · rintro ⟨-, -, -, others, sameList, read⟩
        cases listed.symm.trans sameList
        exact read
      · intro read
        exact ⟨foundId, foundVersion, readStart, items, listed, read⟩
  | _ => simp [Json.get?] at foundId

theorem node_shaped_of_parse {document : Document} (parsed : parse json = .ok document) :
    ∀ node ∈ json.itemsAt "nodes", (∃ fields, node = .obj fields) ∧
      ∀ check ∈ node.itemsAt "checks", ∃ entry, CheckEntry.read check = .ok entry := by
  obtain ⟨-, -, -, -, items, listed, each⟩ := parse_eq_ok_iff.1 parsed
  have nodes : json.itemsAt "nodes" = items := by simp [Json.itemsAt, listed, Json.asArray?]
  rw [nodes]
  intro node member
  obtain ⟨entry, made⟩ := exists_forall₂_iff.1 ⟨_, each⟩ node member
  obtain ⟨named, -, -, -, checks⟩ := parseNode_eq_ok_iff.1 made
  constructor
  · cases node with
    | obj fields => exact ⟨fields, rfl⟩
    | _ => simp [Json.get?] at named
  · intro check listed
    obtain ⟨entry, made⟩ := exists_of_listed checks check listed
    exact ⟨entry, parseCheck_agrees made⟩

/-- **The two readers agree but for misshapen inputs.**  A document that the parser accepts
is read alike exactly if all its inputs are objects, or arrays that give nothing.  Its
nodes are objects, and all its checks are of the shape that is read. -/
theorem read_of_parse_iff {document : Document} (parsed : parse json = .ok document) :
    (read json = .ok document ↔
      ∀ node ∈ json.itemsAt "nodes", ∀ input ∈ node.itemsAt "inputs",
        InputEntry.Shaped input) ∧
      ∀ node ∈ json.itemsAt "nodes", (∃ fields, node = .obj fields) ∧
        ∀ check ∈ node.itemsAt "checks", ∃ entry, CheckEntry.read check = .ok entry :=
  ⟨read_iff_shaped parsed, node_shaped_of_parse parsed⟩

/-- A document with a guarded input, and one given as an array of absent values. -/
def arrayAsInput : Json :=
  .obj [("id", .str "door"),
    ("nodes", .arr
      [.obj [("name", .str "Open")],
        .obj
          [("checks", .arr [.obj [("name", .str "bolted")]]),
            ("inputs", .arr
              [.obj [("guard", .obj [("after", .ofStrings ["Open"])]), ("label", .str "close")],
                .arr [.null]]),
            ("name", .str "Closed"),
            ("predecessors", .ofStrings ["Open"])]]),
    ("trellis", .str "1.0")]

/-- The array stands for the same input in both readers. -/
theorem arrayAsInput_read_alike :
    ∃ document, parse arrayAsInput = .ok document ∧ read arrayAsInput = .ok document ∧
      (read arrayAsInput = .ok document ↔
        ∀ node ∈ arrayAsInput.itemsAt "nodes", ∀ input ∈ node.itemsAt "inputs",
          InputEntry.Shaped input) ∧
        ∀ node ∈ arrayAsInput.itemsAt "nodes", (∃ fields, node = .obj fields) ∧
          ∀ check ∈ node.itemsAt "checks", ∃ entry, CheckEntry.read check = .ok entry := by
  have parsed : parse arrayAsInput = .ok
      ⟨"door", "1.0", none,
        [⟨"Open", [], [], []⟩,
          ⟨"Closed", ["Open"], [⟨some "close", some (.after ["Open"])⟩, ⟨none, none⟩],
            [⟨"bolted", none⟩]⟩]⟩ := by rfl
  exact ⟨_, parsed, by rfl, read_of_parse_iff parsed⟩

/-- A document with a number where an input is wanted. -/
def numberAsInput : Json :=
  .obj [("id", .str "odd"),
    ("nodes", .arr [.obj [("inputs", .arr [.ofNat 5]), ("name", .str "A")]]),
    ("trellis", .str "1.0")]

/-- The parser takes the number for an input without label and guard; the typed reader
refuses it. -/
theorem parse_accepts_number_as_input :
    parse numberAsInput = .ok ⟨"odd", "1.0", none, [⟨"A", [], [⟨none, none⟩], []⟩]⟩ ∧
      read numberAsInput = .error (.wrongType (.integer 5) (.record "InputDecl")) :=
  ⟨by rfl, by rfl⟩

end Document

end ScenarioGraph
