/-
# ScenarioGraph.Proofs.Document.Validity -- valid documents

A document is proper when its names are not empty and its lists hold what the rules ask
for.  A value that keeps the rules stands for a proper document, which the checked parser
and the typed reader both find in it; and a document as it is written keeps the rules
exactly if it is proper.  So the rules, the two readers and the writer describe one format.

* `readsAsCondition_of_valid`: what keeps the rules on conditions is one.
* `parse_of_valid`: what keeps the rules is read, by both readers alike.
* `violations_toJson_iff`: what is written keeps the rules.
-/
import ScenarioGraph.Proofs.Document.RoundTrip
import ScenarioGraph.Proofs.Document.Rules
import ScenarioGraph.Proofs.Json.Order

namespace ScenarioGraph

set_option autoImplicit false

namespace Document

open Schema Shape

/-! ## Proper documents -/

def GuardEntry.Proper : GuardEntry → Prop
  | after names => "" ∉ names ∧ names ≠ []
  | when condition => "" ∉ condition.names

structure InputEntry.Proper (entry : InputEntry) : Prop where
  label : ∀ label ∈ entry.label, label ≠ ""
  guard : ∀ guard ∈ entry.guard, guard.Proper

structure CheckEntry.Proper (entry : CheckEntry) : Prop where
  name : entry.name ≠ ""
  guard : ∀ guard ∈ entry.guard, guard.Proper

structure NodeEntry.Proper (entry : NodeEntry) : Prop where
  name : entry.name ≠ ""
  predecessors : "" ∉ entry.predecessors
  distinct : entry.predecessors.Nodup
  inputs : ∀ input ∈ entry.inputs, input.Proper
  checks : ∀ check ∈ entry.checks, check.Proper

structure Proper (document : Document) : Prop where
  id : document.id ≠ ""
  version : document.version = supportedVersion
  start : ∀ start ∈ document.start, start ≠ ""
  nonempty : document.nodes ≠ []
  nodes : ∀ node ∈ document.nodes, node.Proper

/-! ## Conditions -/

/-- The value is read as a condition, inside others and alone, and no name in it is empty. -/
def ReadsAsCondition (json : Json) : Prop :=
  ∃ condition : Condition, "" ∉ condition.names ∧
    ∀ inside, Condition.readAt inside json = .ok condition

section Operands

variable {fields : List (String × Json)} {operator : Operator}

/-- Both operands are conditions, and no name in either is empty. -/
theorem exists_operands_of_bothRules
    (marked : fields.lookup "op" = some (.str operator.name)) (kept : bothRules (.obj fields) = [])
    (operand : ∀ key value, fields.lookup key = some value →
      conditionViolations value = [] → ReadsAsCondition value) :
    ∃ left right, ∃ first second : Condition,
      fields.lookup "left" = some left ∧ fields.lookup "right" = some right ∧
        "" ∉ first.names.union second.names ∧ Condition.readAt true left = .ok first ∧
        Condition.readAt true right = .ok second := by
  obtain ⟨-, -, ⟨left, foundLeft, keptLeft⟩, right, foundRight, keptRight⟩ :=
    (bothRules_eq_nil_iff marked).1 kept
  obtain ⟨first, namedFirst, readFirst⟩ := operand "left" left foundLeft keptLeft
  obtain ⟨second, namedSecond, readSecond⟩ := operand "right" right foundRight keptRight
  refine ⟨left, right, first, second, foundLeft, foundRight, ?_, readFirst true, readSecond true⟩
  rw [NameSet.mem_union, not_or]
  exact ⟨namedFirst, namedSecond⟩

/-- What keeps the rules of an operator is a condition if its operands are. -/
theorem readsAsCondition_of_rules (marked : fields.lookup "op" = some (.str operator.name))
    (kept : Operator.rules operator (.obj fields) = [])
    (operand : ∀ key value, fields.lookup key = some value →
      conditionViolations value = [] → ReadsAsCondition value) :
    ReadsAsCondition (.obj fields) := by
  cases operator with
  | sequence =>
      obtain ⟨-, -, names, listed, kept⟩ := (namesRules_eq_nil_iff marked).1 kept
      obtain ⟨texts, rfl, named⟩ := namesViolations_eq_nil_iff.1 kept
      refine ⟨.sequence texts, ?_, fun inside => Condition.readAt_sequence marked listed⟩
      exact NameSet.mem_ofList.not.2 named
  | moreRecent =>
      obtain ⟨-, -, ⟨older, foundOlder, keptOlder⟩, newer, foundNewer, keptNewer⟩ :=
        (pairRules_eq_nil_iff marked).1 kept
      obtain ⟨before, rfl, namedBefore⟩ := nameViolations_eq_nil_iff.1 keptOlder
      obtain ⟨after, rfl, namedAfter⟩ := nameViolations_eq_nil_iff.1 keptNewer
      refine ⟨.moreRecent before after, ?_,
        fun inside => Condition.readAt_moreRecent marked foundOlder foundNewer⟩
      rw [Condition.names, NameSet.mem_ofList]
      simp [namedBefore.symm, namedAfter.symm]
  | lastIn =>
      obtain ⟨-, -, names, listed, kept⟩ := (namesRules_eq_nil_iff marked).1 kept
      obtain ⟨texts, rfl, named⟩ := namesViolations_eq_nil_iff.1 kept
      refine ⟨.lastIn (NameSet.ofList texts), ?_,
        fun inside => Condition.readAt_lastIn marked listed⟩
      exact NameSet.mem_ofList.not.2 named
  | and =>
      obtain ⟨left, right, first, second, foundLeft, foundRight, named, readLeft, readRight⟩ :=
        exists_operands_of_bothRules marked kept operand
      exact ⟨.and first second, named, fun inside =>
        Condition.readAt_and marked foundLeft foundRight readLeft readRight⟩
  | or =>
      obtain ⟨left, right, first, second, foundLeft, foundRight, named, readLeft, readRight⟩ :=
        exists_operands_of_bothRules marked kept operand
      exact ⟨.or first second, named, fun inside =>
        Condition.readAt_or marked foundLeft foundRight readLeft readRight⟩
  | not =>
      obtain ⟨-, -, inner, found, kept⟩ := (innerRules_eq_nil_iff marked).1 kept
      obtain ⟨condition, named, read⟩ := operand "inner" inner found kept
      exact ⟨.not condition, named, fun inside => Condition.readAt_not marked found (read true)⟩

end Operands

/-- A value that keeps the rules on conditions is a condition. -/
theorem readsAsCondition_of_valid {json : Json} (valid : conditionViolations json = []) :
    ReadsAsCondition json := by
  induction size : sizeOf json using Nat.strongRecOn generalizing json with
  | ind n ih =>
      subst size
      obtain ⟨fields, operator, rfl, marked, kept⟩ := exists_operator_of_conditionViolations valid
      refine readsAsCondition_of_rules marked kept fun key value found keptValue => ?_
      -- Operands are smaller than the condition they stand in.
      have inObject : (Json.obj fields).get? key = some value := found
      exact ih _ (Json.sizeOf_get?_lt inObject) keptValue rfl

/-- A condition as it is written keeps the rules exactly if none of its names is empty. -/
theorem conditionViolations_toJson_iff (condition : Condition) :
    conditionViolations condition.toJson = [] ↔ "" ∉ condition.names := by
  induction condition with
  | sequence names =>
      have marked : [("names", Json.ofStrings names), ("op", .str "sequence")].lookup "op" =
          some (.str (Operator.name .sequence)) := rfl
      rw [Condition.toJson, conditionViolations_obj_iff marked, Operator.rules,
        namesRules_eq_nil_iff marked, Condition.names, NameSet.mem_ofList]
      simp [Operator.name, Closed, Has, namesViolations_ofStrings_iff]
  | moreRecent older newer =>
      have marked : [("newer", Json.str newer), ("older", .str older),
          ("op", .str "more_recent")].lookup "op" = some (.str (Operator.name .moreRecent)) := rfl
      rw [Condition.toJson, conditionViolations_obj_iff marked, Operator.rules,
        pairRules_eq_nil_iff marked, Condition.names, NameSet.mem_ofList]
      simp [Operator.name, Closed, Has, List.lookup_cons, nameViolations_str_iff, @eq_comm _ ""]
  | lastIn names =>
      have marked : [("names", Json.ofStrings names.toList), ("op", .str "last_in")].lookup "op" =
          some (.str (Operator.name .lastIn)) := rfl
      rw [Condition.toJson, conditionViolations_obj_iff marked, Operator.rules,
        namesRules_eq_nil_iff marked, Condition.names, ← NameSet.mem_toList]
      simp [Operator.name, Closed, Has, namesViolations_ofStrings_iff]
  | and left right ihLeft ihRight =>
      have marked : [("left", left.toJson), ("op", .str "and"), ("right", right.toJson)].lookup
          "op" = some (.str (Operator.name .and)) := rfl
      rw [Condition.toJson, conditionViolations_obj_iff marked, Operator.rules,
        bothRules_eq_nil_iff marked, Condition.names, NameSet.mem_union, not_or, ← ihLeft,
        ← ihRight]
      simp [Operator.name, Closed, Has, List.lookup_cons]
  | or left right ihLeft ihRight =>
      have marked : [("left", left.toJson), ("op", .str "or"), ("right", right.toJson)].lookup
          "op" = some (.str (Operator.name .or)) := rfl
      rw [Condition.toJson, conditionViolations_obj_iff marked, Operator.rules,
        bothRules_eq_nil_iff marked, Condition.names, NameSet.mem_union, not_or, ← ihLeft,
        ← ihRight]
      simp [Operator.name, Closed, Has, List.lookup_cons]
  | not inner ih =>
      have marked : [("inner", inner.toJson), ("op", .str "not")].lookup "op" =
          some (.str (Operator.name .not)) := rfl
      rw [Condition.toJson, conditionViolations_obj_iff marked, Operator.rules,
        innerRules_eq_nil_iff marked, Condition.names, ← ih]
      simp [Operator.name, Closed, Has]

/-! ## Fields -/

variable {fields : List (String × Json)}

/-- A field that may be absent, and is not given as `null`. -/
theorem readOptional_of_valid {α : Type} {read : Json → Except ShapeError α} {proper : α → Prop}
    {key : String} (valid : MayHave fields key fun json => json ≠ .null ∧
      ∃ value, proper value ∧ read json = .ok value) :
    ∃ value, (∀ found ∈ value, proper found) ∧
      readOptional read (fields.lookup key) = .ok value := by
  cases given : fields.lookup key with
  | none => exact ⟨none, by simp, readOptional_eq_ok_none_iff.2 (Or.inl rfl)⟩
  | some json =>
      obtain ⟨notNull, value, fine, done⟩ := valid json given
      exact ⟨some value, by simpa using fine,
        readOptional_eq_ok_some_iff.2 ⟨json, rfl, notNull, done⟩⟩

theorem readText_of_valid {key : String}
    (valid : MayHave fields key fun json => nameViolations json = []) :
    ∃ text, (∀ name ∈ text, name ≠ "") ∧ readOptional readText (fields.lookup key) = .ok text := by
  refine readOptional_of_valid fun json given => ?_
  obtain ⟨name, rfl, named⟩ := nameViolations_eq_nil_iff.1 (valid json given)
  exact ⟨by simp, name, named, rfl⟩

theorem listed_of_valid {α : Type} {stands : Json → α → Prop} {proper : α → Prop}
    {rule : Json → List Violation} {key : String} (ordered : (Json.obj fields).InOrder)
    (valid : MayHave fields key fun json =>
      ∃ items, json = .arr items ∧ ∀ item ∈ items, rule item = [])
    (sound : ∀ {item : Json}, item.InOrder → rule item = [] →
      ∃ value, proper value ∧ stands item value) :
    ∃ values, (∀ value ∈ values, proper value) ∧ Listed (fields.lookup key) stands values := by
  cases given : fields.lookup key with
  | none => exact ⟨[], by simp, rfl⟩
  | some json =>
      obtain ⟨items, rfl, each⟩ := valid json given
      have found : (Json.obj fields).get? key = some (.arr items) := given
      obtain ⟨values, read⟩ := exists_forall₂_iff.2 fun item member =>
        sound (Json.inOrder_arr_iff.1 (ordered.of_get? found) item member) (each item member)
      refine ⟨values, fun value member => ?_, read.imp fun _ _ both => both.2⟩
      obtain ⟨item, fine, -⟩ := exists_forall₂_iff.1 ⟨_, read.flip⟩ value member
      exact fine

/-! ## Entries -/

/-- Since keys are not repeated, the object has the field of its kind and nothing else. -/
theorem GuardEntry.read_of_valid {json : Json} (ordered : json.InOrder)
    (valid : guardViolations json = []) :
    ∃ guard : GuardEntry, guard.Proper ∧ GuardEntry.read json = .ok guard := by
  obtain ⟨fields, rfl⟩ := isObject_of_guardViolations valid
  rcases guardViolations_obj_iff.1 valid with kept | kept
  · obtain ⟨closed, names, given, kept, some_⟩ := afterRules_eq_nil_iff.1 kept
    obtain ⟨texts, rfl, named⟩ := namesViolations_eq_nil_iff.1 kept
    obtain rfl := ordered.eq_singleton (by simpa [Closed] using closed) given
    refine ⟨.after texts, ⟨named, minItems_ofStrings_iff.1 some_⟩, ?_⟩
    exact (GuardEntry.after texts).read_toJson
  · obtain ⟨closed, json, given, kept⟩ := whenRules_eq_nil_iff.1 kept
    obtain ⟨condition, named, read⟩ := readsAsCondition_of_valid kept
    obtain rfl := ordered.eq_singleton (by simpa [Closed] using closed) given
    refine ⟨.when condition, named, ?_⟩
    rw [GuardEntry.read, Condition.read, read, map_ok]

theorem readGuard_of_valid (ordered : (Json.obj fields).InOrder)
    (valid : MayHave fields "guard" fun json => guardViolations json = []) :
    ∃ guard, (∀ entry ∈ guard, GuardEntry.Proper entry) ∧
      readOptional GuardEntry.read (fields.lookup "guard") = .ok guard := by
  refine readOptional_of_valid fun json given => ?_
  have found : (Json.obj fields).get? "guard" = some json := given
  have kept := valid json given
  obtain ⟨inner, isObject⟩ := isObject_of_guardViolations kept
  exact ⟨by simp [isObject], GuardEntry.read_of_valid (ordered.of_get? found) kept⟩

/-- What the parser and the typed reader make of an input alike. -/
theorem input_of_valid {json : Json} (ordered : json.InOrder) (valid : inputViolations json = []) :
    ∃ entry : InputEntry, entry.Proper ∧
      parseInput json = .ok entry ∧ InputEntry.read json = .ok entry := by
  obtain ⟨fields, rfl, -, keptLabel, keptGuard⟩ := inputViolations_eq_nil_iff.1 valid
  obtain ⟨label, fineLabel, readLabel⟩ := readText_of_valid keptLabel
  obtain ⟨guard, fineGuard, readGuard⟩ := readGuard_of_valid ordered keptGuard
  exact ⟨⟨label, guard⟩, ⟨fineLabel, fineGuard⟩, parseInput_eq_ok_iff.2 ⟨readLabel, readGuard⟩,
    InputEntry.read_obj_eq_ok_iff.2 ⟨readLabel, readGuard⟩⟩

theorem check_of_valid {json : Json} (ordered : json.InOrder) (valid : checkViolations json = []) :
    ∃ entry : CheckEntry, entry.Proper ∧
      parseCheck json = .ok entry ∧ CheckEntry.read json = .ok entry := by
  obtain ⟨fields, rfl, -, ⟨value, given, keptName⟩, keptGuard⟩ :=
    checkViolations_eq_nil_iff.1 valid
  obtain ⟨name, rfl, named⟩ := nameViolations_eq_nil_iff.1 keptName
  obtain ⟨guard, fineGuard, readGuard⟩ := readGuard_of_valid ordered keptGuard
  exact ⟨⟨name, guard⟩, ⟨named, fineGuard⟩, parseCheck_eq_ok_iff.2 ⟨given, readGuard⟩,
    CheckEntry.read_obj_eq_ok_iff.2 ⟨given, readGuard⟩⟩

theorem readNames_of_valid {key : String} (valid : MayHave fields key fun json =>
      namesViolations json = [] ∧ distinctItems json = []) :
    ∃ names : List Name, "" ∉ names ∧ names.Nodup ∧
      Listed (fields.lookup key) (fun json name => readText json = .ok name) names := by
  cases given : fields.lookup key with
  | none => exact ⟨[], by simp, List.nodup_nil, rfl⟩
  | some json =>
      obtain ⟨kept, distinct⟩ := valid json given
      obtain ⟨names, rfl, named⟩ := namesViolations_eq_nil_iff.1 kept
      exact ⟨names, named, distinctItems_ofStrings_iff.1 distinct, listed_map fun _ _ => rfl⟩

theorem node_of_valid {json : Json} (ordered : json.InOrder) (valid : nodeViolations json = []) :
    ∃ entry : NodeEntry, entry.Proper ∧
      parseNode 0 json = .ok entry ∧ NodeEntry.read json = .ok entry := by
  obtain ⟨fields, rfl, -, ⟨value, given, keptName⟩, keptNames, keptInputs, keptChecks⟩ :=
    nodeViolations_eq_nil_iff.1 valid
  obtain ⟨name, rfl, named⟩ := nameViolations_eq_nil_iff.1 keptName
  obtain ⟨names, fineNames, distinct, readNames⟩ := readNames_of_valid keptNames
  obtain ⟨inputs, fineInputs, readInputs⟩ := listed_of_valid ordered keptInputs input_of_valid
  obtain ⟨checks, fineChecks, readChecks⟩ := listed_of_valid ordered keptChecks check_of_valid
  refine ⟨⟨name, names, inputs, checks⟩, ⟨named, fineNames, distinct, fineInputs, fineChecks⟩,
    ?_, ?_⟩
  · exact parseNode_eq_ok_iff.2 ⟨given, named, readNames,
      readInputs.mono fun _ _ both => both.1, readChecks.mono fun _ _ both => both.1⟩
  · exact NodeEntry.read_obj_eq_ok_iff.2 ⟨given, readNames,
      readInputs.mono fun _ _ both => both.2, readChecks.mono fun _ _ both => both.2⟩

/-! ## Documents -/

/-- What keeps the rules is read as a proper document, by both readers alike. -/
theorem parse_of_valid {json : Json} (ordered : json.InOrder) (valid : violations json = []) :
    ∃ document : Document, document.Proper ∧
      parse json = .ok document ∧ read json = .ok document := by
  obtain ⟨fields, rfl, -, ⟨idJson, givenId, keptId⟩, ⟨versionJson, givenVersion, supported⟩,
    keptStart, nodesJson, givenNodes, items, rfl, some_, each⟩ := violations_eq_nil_iff.1 valid
  obtain ⟨id, rfl, namedId⟩ := nameViolations_eq_nil_iff.1 keptId
  obtain ⟨start, fineStart, readStart⟩ := readText_of_valid keptStart
  have keptNodes : MayHave fields "nodes" fun json =>
      ∃ items, json = .arr items ∧ ∀ item ∈ items, nodeViolations item = [] := by
    intro json given
    cases givenNodes.symm.trans given
    exact ⟨items, rfl, each⟩
  obtain ⟨nodes, fineNodes, readNodes⟩ := listed_of_valid ordered keptNodes node_of_valid
  rw [givenNodes] at readNodes
  have someNodes : nodes ≠ [] := by
    rintro rfl
    exact some_ (List.forall₂_nil_right_iff.1 readNodes)
  subst supported
  refine ⟨⟨id, supportedVersion, start, nodes⟩,
    ⟨namedId, rfl, fineStart, someNodes, fineNodes⟩, ?_, ?_⟩
  · exact parse_eq_ok_iff.2 ⟨givenId, givenVersion, rfl, readStart, items, givenNodes,
      List.Forall₂.imp (fun _ _ both => both.1) readNodes⟩
  · exact read_obj_eq_ok_iff.2 ⟨givenId, givenVersion, readStart, items, givenNodes,
      List.Forall₂.imp (fun _ _ both => both.2) readNodes⟩

/-! ## Documents as they are written -/

theorem mayHave_map_iff {α : Type} {write : α → Json} {value : Option α} {key : String}
    {good : Json → Prop} (written : fields.lookup key = value.map write) :
    MayHave fields key good ↔ ∀ found ∈ value, good (write found) := by
  rw [MayHave, written]
  cases value <;> simp

theorem guardViolations_toJson_iff (guard : GuardEntry) :
    guardViolations guard.toJson = [] ↔ guard.Proper := by
  cases guard with
  | after names =>
      rw [GuardEntry.toJson, guardViolations_obj_iff, afterRules_eq_nil_iff, whenRules_eq_nil_iff]
      simp [Closed, Has, GuardEntry.Proper, namesViolations_ofStrings_iff, minItems_ofStrings_iff]
  | when condition =>
      rw [GuardEntry.toJson, guardViolations_obj_iff, afterRules_eq_nil_iff, whenRules_eq_nil_iff]
      simp [Closed, Has, GuardEntry.Proper, conditionViolations_toJson_iff]

theorem mayHave_name_iff {text : Option String} {key : String}
    (written : fields.lookup key = text.map .str) :
    (MayHave fields key fun json => nameViolations json = []) ↔ ∀ name ∈ text, name ≠ "" := by
  simp only [mayHave_map_iff written, nameViolations_str_iff]

theorem mayHave_guard_iff {guard : Option GuardEntry}
    (written : fields.lookup "guard" = guard.map GuardEntry.toJson) :
    (MayHave fields "guard" fun json => guardViolations json = []) ↔
      ∀ entry ∈ guard, entry.Proper := by
  simp only [mayHave_map_iff written, guardViolations_toJson_iff]

theorem has_name_iff {name key : String} (written : fields.lookup key = some (.str name)) :
    (Has fields key fun json => nameViolations json = []) ↔ name ≠ "" := by
  simp [Has, written, nameViolations_str_iff]

/-- A list whose items keep a rule exactly if what they stand for is proper. -/
theorem forall_map_iff {α : Type} {write : α → Json} {rule : Json → List Violation}
    {proper : α → Prop} (each : ∀ value, rule (write value) = [] ↔ proper value)
    (values : List α) :
    (∃ items, Json.arr (values.map write) = .arr items ∧ ∀ item ∈ items, rule item = []) ↔
      ∀ value ∈ values, proper value := by
  simp [each]

theorem inputViolations_toJson_iff (entry : InputEntry) :
    inputViolations entry.toJson = [] ↔ entry.Proper := by
  obtain ⟨label, guard⟩ := entry.get?_toJson
  rw [inputViolations_eq_nil_iff]
  constructor
  · rintro ⟨fields, same, -, keptLabel, keptGuard⟩
    rw [same] at label guard
    exact ⟨(mayHave_name_iff label).1 keptLabel, (mayHave_guard_iff guard).1 keptGuard⟩
  · rintro ⟨fineLabel, fineGuard⟩
    refine ⟨_, rfl, ?_, (mayHave_name_iff label).2 fineLabel, (mayHave_guard_iff guard).2 fineGuard⟩
    rcases entry with ⟨_ | label, _ | guard⟩ <;> simp [Closed, optionalField]

theorem checkViolations_toJson_iff (entry : CheckEntry) :
    checkViolations entry.toJson = [] ↔ entry.Proper := by
  obtain ⟨name, guard⟩ := entry.get?_toJson
  rw [checkViolations_eq_nil_iff]
  constructor
  · rintro ⟨fields, same, -, keptName, keptGuard⟩
    rw [same] at name guard
    exact ⟨(has_name_iff name).1 keptName, (mayHave_guard_iff guard).1 keptGuard⟩
  · rintro ⟨fineName, fineGuard⟩
    refine ⟨_, rfl, ?_, (has_name_iff name).2 fineName, (mayHave_guard_iff guard).2 fineGuard⟩
    rcases entry with ⟨name, _ | guard⟩ <;> simp [Closed, optionalField]

theorem nodeViolations_toJson_iff (entry : NodeEntry) :
    nodeViolations entry.toJson = [] ↔ entry.Proper := by
  have inputs := forall_map_iff inputViolations_toJson_iff entry.inputs
  have checks := forall_map_iff checkViolations_toJson_iff entry.checks
  rw [nodeViolations_eq_nil_iff]
  constructor
  · rintro ⟨fields, same, -, keptName, keptNames, keptInputs, keptChecks⟩
    cases same
    obtain ⟨named, distinct⟩ := keptNames _ rfl
    exact ⟨(has_name_iff rfl).1 keptName, namesViolations_ofStrings_iff.1 named,
      distinctItems_ofStrings_iff.1 distinct, inputs.1 (keptInputs _ rfl),
      checks.1 (keptChecks _ rfl)⟩
  · rintro ⟨fineName, named, distinct, fineInputs, fineChecks⟩
    refine ⟨_, rfl, by simp [Closed], (has_name_iff rfl).2 fineName, ?_, ?_, ?_⟩
    · rintro _ ⟨⟩
      exact ⟨namesViolations_ofStrings_iff.2 named, distinctItems_ofStrings_iff.2 distinct⟩
    · rintro _ ⟨⟩
      exact inputs.2 fineInputs
    · rintro _ ⟨⟩
      exact checks.2 fineChecks

/-- A document as it is written keeps the rules exactly if it is proper. -/
theorem violations_toJson_iff (document : Document) :
    violations document.toJson = [] ↔ document.Proper := by
  obtain ⟨version, start⟩ := document.get?_toJson
  have nodes := forall_map_iff nodeViolations_toJson_iff document.nodes
  rw [violations_eq_nil_iff]
  constructor
  · rintro ⟨fields, same, -, keptId, ⟨versionJson, givenVersion, supported⟩, keptStart,
      nodesJson, givenNodes, items, isItems, some_, each⟩
    cases same
    have sameVersion : Json.str document.version = versionJson :=
      Option.some.inj (version.symm.trans givenVersion)
    have sameNodes : Json.arr (document.nodes.map NodeEntry.toJson) = nodesJson :=
      Option.some.inj givenNodes
    have fineNodes := nodes.1 ⟨items, sameNodes.trans isItems, each⟩
    have someNodes : document.nodes ≠ [] := by
      intro none_
      rw [none_] at sameNodes
      cases sameNodes.trans isItems
      exact some_ rfl
    exact ⟨(has_name_iff rfl).1 keptId, Json.str.inj (sameVersion.trans supported),
      (mayHave_name_iff start).1 keptStart, someNodes, fineNodes⟩
  · rintro ⟨fineId, supported, fineStart, some_, fineNodes⟩
    obtain ⟨items, isItems, each⟩ := nodes.2 fineNodes
    refine ⟨_, rfl, ?_, (has_name_iff rfl).2 fineId, ⟨_, version, congrArg Json.str supported⟩,
      (mayHave_name_iff start).2 fineStart, _, rfl, items, isItems, ?_, each⟩
    · rcases document with ⟨id, version, _ | start, nodes⟩ <;> simp [Closed, optionalField]
    · rintro rfl
      simp [some_] at isItems

end Document

end ScenarioGraph
