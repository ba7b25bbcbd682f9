/-
# ScenarioGraph.Proofs.Document.Parsing -- what the checked parser makes of fields

The parser finds fields by their keys, as the typed readers do, and reports other
errors.  Its leaves succeed exactly when the typed leaves do, with the same results;
so each of its entries is given by the fields it looks at, in the same terms.

* `parseInput_eq_ok_iff`, `parseCheck_eq_ok_iff`, `parseNode_eq_ok_iff`: entries.
* `parse_eq_ok_iff`: documents.
-/
import ScenarioGraph.Document.Parser
import ScenarioGraph.Proofs.Document.Reading

namespace ScenarioGraph.Document

set_option autoImplicit false

open Shape

variable {json : Json}

/-! ## Leaves -/

theorem labelField_eq_ok_iff {label : Option String} :
    labelField json = .ok label ↔ readOptional readText (json.get? "label") = .ok label := by
  unfold labelField
  cases json.get? "label" with
  | none => simp [readOptional, readIfAny]
  | some value => cases value <;> simp [readOptional, readIfAny, readOption, readText, wrong]

theorem guardField_eq_ok_iff {guard : Option GuardEntry} :
    guardField json = .ok guard ↔
      readOptional GuardEntry.read (json.get? "guard") = .ok guard := by
  unfold guardField
  cases json.get? "guard" with
  | none => simp [readOptional, readIfAny]
  | some value =>
      by_cases null : value = .null
      · subst null
        simp [readOptional, readIfAny, readOption]
      · have present : readOption GuardEntry.read value = some <$> GuardEntry.read value := by
          cases value <;> simp_all [readOption]
        simp only [readOptional, readIfAny, present]
        cases GuardEntry.read value <;> cases value <;> simp_all

theorem startField_eq_ok_iff {start : Option Name} :
    startField json = .ok start ↔ readOptional readText (json.get? "start") = .ok start := by
  unfold startField
  cases json.get? "start" with
  | none => simp [readOptional, readIfAny]
  | some value => cases value <;> simp [readOptional, readIfAny, readOption, readText, wrong]

theorem textField_eq_ok_iff {field text : String} :
    textField json field = .ok text ↔ json.get? field = some (.str text) := by
  unfold textField
  cases json.get? field with
  | none => simp
  | some value => cases value <;> simp [Json.asString?]

/-- A list whose items are parsed one by one. -/
theorem exists_listField_iff {α : Type} {field : String} {parse : Json → Except NodeFlaw α}
    {values : List α} :
    (∃ items, listField json field = .ok items ∧ items.mapM parse = .ok values) ↔
      Listed (json.get? field) (fun item value => parse item = .ok value) values := by
  unfold listField
  cases json.get? field with
  | none => simp [Listed, eq_comm]
  | some value => cases value <;> simp [Listed, mapM_eq_ok_iff]

theorem mapM_asString?_eq_some_iff {items : List Json} {names : List Name} :
    items.mapM Json.asString? = some names ↔
      List.Forall₂ (fun item name => readText item = .ok name) items names := by
  induction items generalizing names with
  | nil => simp [eq_comm]
  | cons item rest ih =>
      rw [List.mapM_cons, List.forall₂_cons_left_iff]
      cases item with
      | str name =>
          simp only [Json.asString?, Option.bind_eq_bind, Option.bind_eq_some_iff, ih,
            Option.pure_def, Option.some.injEq]
          constructor
          · rintro ⟨_, rfl, later, others, rfl⟩
            exact ⟨_, _, rfl, others, rfl⟩
          · rintro ⟨_, later, same, others, rfl⟩
            cases same
            exact ⟨_, rfl, later, others, rfl⟩
      | _ => simp [Json.asString?, readText, wrong]

theorem namesField_eq_ok_iff {field : String} {names : List Name} :
    namesField json field = .ok names ↔
      Listed (json.get? field) (fun item name => readText item = .ok name) names := by
  unfold namesField listField
  cases json.get? field with
  | none => simp [Listed, eq_comm]
  | some value =>
      cases value with
      | arr items =>
          simp only [Listed, ok_bind, ← mapM_asString?_eq_some_iff]
          cases items.mapM Json.asString? <;> simp
      | _ => simp [Listed]

/-! ## Entries -/

theorem parseInput_eq_ok_iff {entry : InputEntry} :
    parseInput json = .ok entry ↔
      readOptional readText (json.get? "label") = .ok entry.label ∧
        readOptional GuardEntry.read (json.get? "guard") = .ok entry.guard := by
  simp only [parseInput, bind_eq_ok_iff, labelField_eq_ok_iff, guardField_eq_ok_iff]
  constructor
  · rintro ⟨label, readLabel, guard, readGuard, made⟩
    cases made
    exact ⟨readLabel, readGuard⟩
  · rintro ⟨readLabel, readGuard⟩
    exact ⟨_, readLabel, _, readGuard, rfl⟩

theorem parseCheck_eq_ok_iff {entry : CheckEntry} :
    parseCheck json = .ok entry ↔
      json.get? "name" = some (.str entry.name) ∧
        readOptional GuardEntry.read (json.get? "guard") = .ok entry.guard := by
  unfold parseCheck
  cases json.get? "name" with
  | none => simp
  | some value =>
      cases value with
      | str name =>
          simp only [bind_eq_ok_iff, guardField_eq_ok_iff, Option.some.injEq, Json.str.injEq]
          constructor
          · rintro ⟨guard, readGuard, made⟩
            cases made
            exact ⟨rfl, readGuard⟩
          · rintro ⟨rfl, readGuard⟩
            exact ⟨_, readGuard, rfl⟩
      | _ => simp

theorem parseNodeBody_eq_ok_iff {name : Name} {entry : NodeEntry} :
    parseNodeBody name json = .ok entry ↔
      entry.name = name ∧
        Listed (json.get? "predecessors") (fun item name => readText item = .ok name)
          entry.predecessors ∧
        Listed (json.get? "inputs") (fun item input => parseInput item = .ok input) entry.inputs ∧
        Listed (json.get? "checks") (fun item check => parseCheck item = .ok check) entry.checks := by
  simp only [parseNodeBody, bind_eq_ok_iff, namesField_eq_ok_iff, ← exists_listField_iff]
  constructor
  · rintro ⟨predecessors, readPredecessors, inputItems, inputsListed, inputs, readInputs,
      checkItems, checksListed, checks, readChecks, made⟩
    cases made
    exact ⟨rfl, readPredecessors, ⟨_, inputsListed, readInputs⟩, _, checksListed, readChecks⟩
  · rintro ⟨rfl, readPredecessors, ⟨_, inputsListed, readInputs⟩, _, checksListed, readChecks⟩
    exact ⟨_, readPredecessors, _, inputsListed, _, readInputs, _, checksListed, _, readChecks, rfl⟩

/-- Where a node stands in its document matters for errors only. -/
theorem parseNode_eq_ok_iff {index : Nat} {entry : NodeEntry} :
    parseNode index json = .ok entry ↔
      json.get? "name" = some (.str entry.name) ∧ entry.name ≠ "" ∧
        Listed (json.get? "predecessors") (fun item name => readText item = .ok name)
          entry.predecessors ∧
        Listed (json.get? "inputs") (fun item input => parseInput item = .ok input) entry.inputs ∧
        Listed (json.get? "checks") (fun item check => parseCheck item = .ok check) entry.checks := by
  have named : ∀ name : Name,
      (if name.isEmpty then .error (Flaw.unnamedNode index)
        else (parseNodeBody name json).mapError (Flaw.inNode name)) = .ok entry ↔
      name ≠ "" ∧ parseNodeBody name json = .ok entry := by
    intro name
    by_cases empty : name = ""
    · simp [empty]
    · simp [empty, mapError_eq_ok_iff]
  unfold parseNode
  cases found : json.get? "name" with
  | none => simp
  | some value =>
      cases value with
      | str name =>
          simp only [Option.bind_some, Json.asString?, named, parseNodeBody_eq_ok_iff,
            Option.some.injEq, Json.str.injEq]
          constructor
          · rintro ⟨some_, rfl, lists⟩
            exact ⟨rfl, some_, lists⟩
          · rintro ⟨rfl, some_, lists⟩
            exact ⟨some_, rfl, lists⟩
      | _ => simp [Json.asString?]

theorem parseNodes_eq_ok_iff {index : Nat} {items : List Json} {nodes : List NodeEntry} :
    parseNodes index items = .ok nodes ↔
      List.Forall₂ (fun item node => parseNode 0 item = .ok node) items nodes := by
  induction items generalizing index nodes with
  | nil => simp [parseNodes, eq_comm]
  | cons item rest ih =>
      rw [parseNodes, List.forall₂_cons_left_iff]
      simp only [bind_eq_ok_iff, ih]
      constructor
      · rintro ⟨node, first, later, others, made⟩
        cases made
        exact ⟨node, later, parseNode_eq_ok_iff.2 (parseNode_eq_ok_iff.1 first), others, rfl⟩
      · rintro ⟨node, later, first, others, rfl⟩
        exact ⟨node, parseNode_eq_ok_iff.2 (parseNode_eq_ok_iff.1 first), later, others, rfl⟩

/-! ## Documents -/

/-- The list of nodes must be there. -/
theorem exists_nodes_iff {given : Option Json} {make : List NodeEntry → Document}
    {document : Document} :
    (match given.bind Json.asArray? with
      | none => .error (DocumentError.missingField "nodes")
      | some items => do
          let nodes ← (parseNodes 0 items).mapError DocumentError.invalid
          return make nodes) = Except.ok document ↔
      ∃ items nodes, given = some (.arr items) ∧
        List.Forall₂ (fun item node => parseNode 0 item = .ok node) items nodes ∧
        make nodes = document := by
  cases given with
  | none => simp
  | some value =>
      cases value with
      | arr items => simp [Json.asArray?, bind_eq_ok_iff, mapError_eq_ok_iff, parseNodes_eq_ok_iff]
      | _ => simp [Json.asArray?]

theorem parse_eq_ok_iff {document : Document} :
    parse json = .ok document ↔
      json.get? "id" = some (.str document.id) ∧
        json.get? "trellis" = some (.str document.version) ∧
        document.version = supportedVersion ∧
        readOptional readText (json.get? "start") = .ok document.start ∧
        ∃ items, json.get? "nodes" = some (.arr items) ∧
          List.Forall₂ (fun item node => parseNode 0 item = .ok node) items document.nodes := by
  cases json with
  | obj fields =>
      unfold parse
      simp only [bind_eq_ok_iff, textField_eq_ok_iff]
      constructor
      · rintro ⟨id, foundId, version, foundVersion, rest⟩
        split at rest
        · cases rest
        · rename_i supported
          obtain ⟨start, readStart, rest⟩ := bind_eq_ok_iff.1 rest
          obtain ⟨items, nodes, listed, each, made⟩ := exists_nodes_iff.1 rest
          subst made
          exact ⟨foundId, foundVersion, not_not.1 supported, startField_eq_ok_iff.1 readStart,
            items, listed, each⟩
      · rintro ⟨foundId, foundVersion, supported, readStart, items, listed, each⟩
        refine ⟨_, foundId, _, foundVersion, ?_⟩
        rw [if_neg (not_not.2 supported)]
        refine bind_eq_ok_iff.2 ⟨_, startField_eq_ok_iff.2 readStart, ?_⟩
        exact exists_nodes_iff.2 ⟨items, _, listed, each, rfl⟩
  | _ => simp [parse, Json.get?]

end ScenarioGraph.Document
