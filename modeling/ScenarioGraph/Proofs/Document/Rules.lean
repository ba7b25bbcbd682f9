/-
# ScenarioGraph.Proofs.Document.Rules -- what it takes to keep the rules

A rule gives the list of its violations.  Here each rule on documents is opened once
into what a value must be for that list to be empty: of which kind, with which fields,
and what these must be in turn.  Nothing else looks inside the rules.

* `namesViolations_eq_nil_iff`, `conditionViolations_obj_iff`: lists of names and
  conditions; the operator of a condition tells its alternatives apart.
* `nodeViolations_eq_nil_iff`, `violations_eq_nil_iff`: entries and documents.
-/
import ScenarioGraph.Document.Schema
import ScenarioGraph.Proofs.Document.Reading

namespace ScenarioGraph

set_option autoImplicit false

variable {fields : List (String × Json)}

/-! ## Values of one kind -/

theorem Json.equals_str_iff {json : Json} {text : String} :
    json.equals (.str text) = true ↔ json = .str text := by
  cases json <;> simp [Json.equals]

namespace Schema

theorem fits_object_iff {json : Json} :
    Kind.fits .object json = true ↔ ∃ fields, json = .obj fields := by
  cases json <;> simp [Kind.fits]

theorem fits_array_iff {json : Json} :
    Kind.fits .array json = true ↔ ∃ items, json = .arr items := by
  cases json <;> simp [Kind.fits]

theorem among_eq_nil_iff {wanted : List Json} {json : Json} :
    among wanted json = [] ↔ ∃ value ∈ wanted, json.equals value = true := by
  simp [among]

theorem eachItem_array_eq_nil_iff {rule : Json → List Violation} {json : Json} :
    ofKind .array json ++ eachItem rule json = [] ↔
      ∃ items, json = .arr items ∧ ∀ item ∈ items, rule item = [] := by
  simp only [List.append_eq_nil_iff, ofKind_eq_nil, fits_array_iff]
  constructor
  · rintro ⟨⟨items, rfl⟩, each⟩
    exact ⟨items, rfl, eachItem_arr_eq_nil.1 each⟩
  · rintro ⟨items, rfl, each⟩
    exact ⟨⟨items, rfl⟩, eachItem_arr_eq_nil.2 each⟩

theorem someItems_eq_nil_iff {rule : Json → List Violation} {json : Json} :
    ofKind .array json ++ minItems 1 json ++ eachItem rule json = [] ↔
      ∃ items, json = .arr items ∧ items ≠ [] ∧ ∀ item ∈ items, rule item = [] := by
  simp only [List.append_eq_nil_iff, ofKind_eq_nil, fits_array_iff]
  constructor
  · rintro ⟨⟨⟨items, rfl⟩, some_⟩, each⟩
    exact ⟨items, rfl, List.ne_nil_of_length_pos (minItems_arr_eq_nil.1 some_),
      eachItem_arr_eq_nil.1 each⟩
  · rintro ⟨items, rfl, some_, each⟩
    exact ⟨⟨⟨items, rfl⟩, minItems_arr_eq_nil.2 (List.length_pos_iff.2 some_)⟩,
      eachItem_arr_eq_nil.2 each⟩

/-! ## Objects -/

/-- The object has no keys but those known. -/
def Closed (known : List String) (fields : List (String × Json)) : Prop :=
  ∀ field ∈ fields, field.1 ∈ known

/-- The object has the field, and its value is as wanted. -/
def Has (fields : List (String × Json)) (name : String) (good : Json → Prop) : Prop :=
  ∃ value, fields.lookup name = some value ∧ good value

/-- If the object has the field, its value is as wanted. -/
def MayHave (fields : List (String × Json)) (name : String) (good : Json → Prop) : Prop :=
  ∀ value, fields.lookup name = some value → good value

theorem has_iff {name : String} {good : Json → Prop} :
    Has fields name good ↔ (fields.lookup name).isSome = true ∧ MayHave fields name good := by
  unfold Has MayHave
  cases fields.lookup name <;> simp

theorem Has.mem_known {name : String} {good : Json → Prop} {known : List String}
    (has : Has fields name good) (closed : Closed known fields) : name ∈ known := by
  obtain ⟨value, found, -⟩ := has
  exact closed _ (Json.lookup_mem found)

theorem onlyFields_obj_eq_nil_iff {known : List String} :
    onlyFields known (.obj fields) = [] ↔ Closed known fields := by
  have closed : (fields.map (·.1)).filter (· ∉ known) = [] ↔ Closed known fields := by
    simp [Closed]
  rw [← closed]
  unfold onlyFields
  dsimp only
  split
  · rename_i unknown
    exact iff_of_true rfl unknown
  · rename_i unknown
    exact iff_of_false (List.cons_ne_nil _ _) unknown

theorem inField_obj_eq_nil_iff {name : String} {rule : Json → List Violation} :
    inField (.obj fields) name (fun part => rule part.val) = [] ↔
      MayHave fields name fun value => rule value = [] := by
  rw [inField_eq_nil]
  constructor
  · intro kept value found
    have inObject : (Json.obj fields).get? name = some value := found
    exact kept _ (Json.field?_eq_some inObject)
  · intro kept part found
    exact kept part.val (Json.get?_of_field? found)

/-- The rules of a record that look at the values of its fields alone. -/
def object (needed : List String) (rules : List (String × (Json → List Violation)))
    (json : Json) : List Violation :=
  record json needed (rules.map fun rule => (rule.1, fun part => rule.2 part.val))

/-- An object keeps the rules if it has no other fields, and each field that it must or may
have keeps its rule. -/
theorem object_eq_nil_iff {needed : List String} {rules : List (String × (Json → List Violation))}
    (ruled : ∀ name ∈ needed, name ∈ rules.map (·.1)) :
    object needed rules (.obj fields) = [] ↔
      Closed (rules.map (·.1)) fields ∧ ∀ rule ∈ rules,
        if rule.1 ∈ needed then Has fields rule.1 fun value => rule.2 value = []
        else MayHave fields rule.1 fun value => rule.2 value = [] := by
  have names : (rules.map fun rule =>
      (rule.1, fun part : (Json.obj fields).Part => rule.2 part.val)).map (·.1) =
        rules.map (·.1) := by
    simp
  simp only [object, record, names, List.append_eq_nil_iff, required_obj_eq_nil,
    onlyFields_obj_eq_nil_iff, List.flatMap_eq_nil_iff, List.forall_mem_map,
    inField_obj_eq_nil_iff]
  constructor
  · rintro ⟨⟨present, closed⟩, kept⟩
    refine ⟨closed, fun rule member => ?_⟩
    split
    · rename_i must
      exact has_iff.2 ⟨present _ must, kept rule member⟩
    · exact kept rule member
  · rintro ⟨closed, kept⟩
    refine ⟨⟨fun name must => ?_, closed⟩, fun rule member => ?_⟩
    · obtain ⟨rule, member, rfl⟩ := List.mem_map.1 (ruled name must)
      have fine := kept rule member
      rw [if_pos must] at fine
      exact (has_iff.1 fine).1
    · have fine := kept rule member
      split at fine
      · exact (has_iff.1 fine).2
      · exact fine

end Schema

namespace Document

open Schema

/-! ## Names -/

theorem nameViolations_str_iff {name : String} : nameViolations (.str name) = [] ↔ name ≠ "" := by
  simp [nameViolations, Kind.fits, Nat.one_le_iff_ne_zero]

theorem nameViolations_eq_nil_iff {json : Json} :
    nameViolations json = [] ↔ ∃ name, json = .str name ∧ name ≠ "" := by
  cases json with
  | str name => simp [nameViolations_str_iff]
  | _ => simp [nameViolations, Kind.fits]

theorem namesViolations_ofStrings_iff {names : List String} :
    namesViolations (.ofStrings names) = [] ↔ "" ∉ names := by
  have each : (∀ name ∈ names, name ≠ "") ↔ "" ∉ names :=
    ⟨fun named empty => named "" empty rfl, fun absent name member same => absent (same ▸ member)⟩
  rw [← each, namesViolations, Json.ofStrings, List.append_eq_nil_iff, ofKind_eq_nil,
    eachItem_arr_eq_nil, List.forall_mem_map]
  simp [Kind.fits, nameViolations_str_iff]

theorem namesViolations_eq_nil_iff {json : Json} :
    namesViolations json = [] ↔ ∃ names, json = .ofStrings names ∧ "" ∉ names := by
  constructor
  · intro kept
    obtain ⟨items, rfl, each⟩ := eachItem_array_eq_nil_iff.1 kept
    have texts : ∀ item ∈ items, ∃ name, item = Json.str name := by
      intro item member
      obtain ⟨name, same, -⟩ := nameViolations_eq_nil_iff.1 (each item member)
      exact ⟨name, same⟩
    obtain ⟨names, read⟩ := exists_forall₂_iff.2 texts
    have same : items = names.map .str := by
      rw [← List.forall₂_eq_eq_eq]
      exact List.forall₂_map_right_iff.2 read
    subst same
    exact ⟨names, rfl, namesViolations_ofStrings_iff.1 kept⟩
  · rintro ⟨names, rfl, named⟩
    exact namesViolations_ofStrings_iff.2 named

theorem distinctItems_ofStrings_iff {names : List String} :
    distinctItems (.ofStrings names) = [] ↔ names.Nodup := by
  simp [distinctItems, Json.ofStrings, List.pairwise_map, List.Nodup]

theorem minItems_ofStrings_iff {names : List String} :
    minItems 1 (.ofStrings names) = [] ↔ names ≠ [] := by
  rw [Json.ofStrings, minItems_arr_eq_nil, List.length_map, Nat.one_le_iff_ne_zero, Ne,
    List.length_eq_zero_iff]

/-! ## Conditions -/

/-- The alternative of the two operators that have names and nothing else. -/
def namesRules (operator : String) : Json → List Violation :=
  object ["names"] [("op", equalTo (.str operator)), ("names", namesViolations)]

def pairRules : Json → List Violation :=
  object ["older", "newer"]
    [("op", equalTo (.str "more_recent")), ("older", nameViolations), ("newer", nameViolations)]

/-- The alternative of the two operators that join two conditions. -/
def bothRules : Json → List Violation :=
  object ["left", "right"]
    [("op", among [.str "and", .str "or"]), ("left", conditionViolations),
      ("right", conditionViolations)]

def innerRules : Json → List Violation :=
  object ["inner"] [("op", equalTo (.str "not")), ("inner", conditionViolations)]

theorem conditionViolations_eq (json : Json) :
    conditionViolations json =
      ofKind .object json ++ required ["op"] json ++ oneOf json
        [namesRules "sequence" json, pairRules json, namesRules "last_in" json, bothRules json,
          innerRules json] := by
  rw [conditionViolations]
  rfl

variable {mark : Json}

theorem namesRules_eq_nil_iff {operator : String} (marked : fields.lookup "op" = some mark) :
    namesRules operator (.obj fields) = [] ↔
      Closed ["op", "names"] fields ∧ mark = .str operator ∧
        Has fields "names" fun names => namesViolations names = [] := by
  rw [namesRules, object_eq_nil_iff (by simp)]
  simp [MayHave, marked, Json.equals_str_iff]

theorem pairRules_eq_nil_iff (marked : fields.lookup "op" = some mark) :
    pairRules (.obj fields) = [] ↔
      Closed ["op", "older", "newer"] fields ∧ mark = .str "more_recent" ∧
        Has fields "older" (fun older => nameViolations older = []) ∧
        Has fields "newer" fun newer => nameViolations newer = [] := by
  rw [pairRules, object_eq_nil_iff (by simp)]
  simp [MayHave, marked, Json.equals_str_iff]

theorem bothRules_eq_nil_iff (marked : fields.lookup "op" = some mark) :
    bothRules (.obj fields) = [] ↔
      Closed ["op", "left", "right"] fields ∧ (mark = .str "and" ∨ mark = .str "or") ∧
        Has fields "left" (fun left => conditionViolations left = []) ∧
        Has fields "right" fun right => conditionViolations right = [] := by
  rw [bothRules, object_eq_nil_iff (by simp)]
  simp [MayHave, marked, among_eq_nil_iff, Json.equals_str_iff]

theorem innerRules_eq_nil_iff (marked : fields.lookup "op" = some mark) :
    innerRules (.obj fields) = [] ↔
      Closed ["op", "inner"] fields ∧ mark = .str "not" ∧
        Has fields "inner" fun inner => conditionViolations inner = [] := by
  rw [innerRules, object_eq_nil_iff (by simp)]
  simp [MayHave, marked, Json.equals_str_iff]

/-- The alternative for an operator. -/
def Operator.rules : Operator → Json → List Violation
  | .sequence => namesRules "sequence"
  | .moreRecent => pairRules
  | .lastIn => namesRules "last_in"
  | .and => bothRules
  | .or => bothRules
  | .not => innerRules

/-- Exactly one of the alternatives is kept. -/
theorem conditionViolations_marked_eq_nil_iff (marked : fields.lookup "op" = some mark) :
    conditionViolations (.obj fields) = [] ↔
      [namesRules "sequence" (.obj fields), pairRules (.obj fields),
        namesRules "last_in" (.obj fields), bothRules (.obj fields),
        innerRules (.obj fields)].countP List.isEmpty = 1 := by
  have present : required ["op"] (.obj fields) = [] :=
    required_obj_eq_nil.2 (by rw [List.forall_mem_singleton, marked]; rfl)
  rw [conditionViolations_eq, present, List.append_nil, List.append_eq_nil_iff,
    and_iff_right (ofKind_eq_nil.2 rfl), oneOf_eq_nil]

/-- The operator tells the alternatives apart: a condition that has it breaks the rules of
all others. -/
theorem conditionViolations_obj_iff {operator : Operator}
    (marked : fields.lookup "op" = some (.str operator.name)) :
    conditionViolations (.obj fields) = [] ↔ Operator.rules operator (.obj fields) = [] := by
  rw [conditionViolations_marked_eq_nil_iff marked]
  -- All alternatives but that of the operator want another one, so they do not count.
  cases operator <;>
    simp [List.countP_cons, Operator.rules, Operator.name, namesRules_eq_nil_iff marked,
      pairRules_eq_nil_iff marked, bothRules_eq_nil_iff marked, innerRules_eq_nil_iff marked]

theorem exists_operator_of_conditionViolations {json : Json}
    (valid : conditionViolations json = []) :
    ∃ fields operator, json = .obj fields ∧
      fields.lookup "op" = some (.str (Operator.name operator)) ∧
      Operator.rules operator (.obj fields) = [] := by
  have opened := valid
  rw [conditionViolations_eq, List.append_eq_nil_iff, List.append_eq_nil_iff, ofKind_eq_nil,
    fits_object_iff] at opened
  obtain ⟨⟨⟨fields, rfl⟩, present⟩, -⟩ := opened
  obtain ⟨mark, marked⟩ := Option.isSome_iff_exists.1 (required_obj_eq_nil.1 present "op" (by simp))
  have one := (conditionViolations_marked_eq_nil_iff marked).1 valid
  obtain ⟨alternative, member, empty⟩ := List.countP_pos_iff.1 (one ▸ Nat.one_pos)
  obtain rfl := List.isEmpty_iff.1 empty
  simp only [List.mem_cons, List.not_mem_nil, or_false, @eq_comm _ []] at member
  rcases member with kept | kept | kept | kept | kept
  · obtain ⟨-, rfl, -⟩ := (namesRules_eq_nil_iff marked).1 kept
    exact ⟨fields, .sequence, rfl, marked, kept⟩
  · obtain ⟨-, rfl, -⟩ := (pairRules_eq_nil_iff marked).1 kept
    exact ⟨fields, .moreRecent, rfl, marked, kept⟩
  · obtain ⟨-, rfl, -⟩ := (namesRules_eq_nil_iff marked).1 kept
    exact ⟨fields, .lastIn, rfl, marked, kept⟩
  · obtain ⟨-, rfl | rfl, -⟩ := (bothRules_eq_nil_iff marked).1 kept
    · exact ⟨fields, .and, rfl, marked, kept⟩
    · exact ⟨fields, .or, rfl, marked, kept⟩
  · obtain ⟨-, rfl, -⟩ := (innerRules_eq_nil_iff marked).1 kept
    exact ⟨fields, .not, rfl, marked, kept⟩

/-! ## Guards -/

def afterRules : Json → List Violation :=
  object ["after"] [("after", fun names => namesViolations names ++ minItems 1 names)]

def whenRules : Json → List Violation := object ["when"] [("when", conditionViolations)]

theorem guardViolations_eq (json : Json) :
    guardViolations json =
      oneOf json [ofKind .object json ++ afterRules json, ofKind .object json ++ whenRules json] :=
  rfl

theorem afterRules_eq_nil_iff :
    afterRules (.obj fields) = [] ↔ Closed ["after"] fields ∧
      Has fields "after" fun names => namesViolations names = [] ∧ minItems 1 names = [] := by
  rw [afterRules, object_eq_nil_iff (by simp)]
  simp

theorem whenRules_eq_nil_iff :
    whenRules (.obj fields) = [] ↔ Closed ["when"] fields ∧
      Has fields "when" fun condition => conditionViolations condition = [] := by
  rw [whenRules, object_eq_nil_iff (by simp)]
  simp

/-- Of the two alternatives no object keeps both, since each allows its own field only. -/
theorem guardViolations_obj_iff :
    guardViolations (.obj fields) = [] ↔
      afterRules (.obj fields) = [] ∨ whenRules (.obj fields) = [] := by
  have exclusive : ¬ (afterRules (.obj fields) = [] ∧ whenRules (.obj fields) = []) := by
    rintro ⟨after, when⟩
    have known := (whenRules_eq_nil_iff.1 when).2.mem_known (afterRules_eq_nil_iff.1 after).1
    simp at known
  have isObject : ofKind .object (.obj fields) = [] := ofKind_eq_nil.2 rfl
  rw [guardViolations_eq, isObject, List.nil_append, List.nil_append, oneOf_eq_nil]
  by_cases after : afterRules (.obj fields) = []
  · have notWhen : whenRules (.obj fields) ≠ [] := fun when => exclusive ⟨after, when⟩
    simp [after, notWhen]
  · simp [List.countP_cons, after]

theorem isObject_of_guardViolations {json : Json} (valid : guardViolations json = []) :
    ∃ fields, json = .obj fields := by
  cases json with
  | obj fields => exact ⟨fields, rfl⟩
  | _ => simp [guardViolations_eq, oneOf_eq_nil, ofKind, Kind.fits] at valid

/-! ## Entries and documents -/

/-- An object with its rules; on any other value there are none to keep. -/
theorem objectRules_eq_nil_iff {needed : List String}
    {rules : List (String × (Json → List Violation))} {json : Json}
    (ruled : ∀ name ∈ needed, name ∈ rules.map (·.1)) :
    ofKind .object json ++ object needed rules json = [] ↔ ∃ fields, json = .obj fields ∧
      Closed (rules.map (·.1)) fields ∧ ∀ rule ∈ rules,
        if rule.1 ∈ needed then Has fields rule.1 fun value => rule.2 value = []
        else MayHave fields rule.1 fun value => rule.2 value = [] := by
  rw [List.append_eq_nil_iff, ofKind_eq_nil, fits_object_iff]
  constructor
  · rintro ⟨⟨fields, rfl⟩, kept⟩
    exact ⟨fields, rfl, (object_eq_nil_iff ruled).1 kept⟩
  · rintro ⟨fields, rfl, kept⟩
    exact ⟨⟨fields, rfl⟩, (object_eq_nil_iff ruled).2 kept⟩

theorem inputViolations_eq_nil_iff {json : Json} :
    inputViolations json = [] ↔ ∃ fields, json = .obj fields ∧
      Closed ["label", "guard"] fields ∧
        MayHave fields "label" (fun label => nameViolations label = []) ∧
        MayHave fields "guard" fun guard => guardViolations guard = [] := by
  have rules : inputViolations json = ofKind .object json
      ++ object [] [("label", nameViolations), ("guard", guardViolations)] json := rfl
  rw [rules, objectRules_eq_nil_iff (by simp)]
  simp

theorem checkViolations_eq_nil_iff {json : Json} :
    checkViolations json = [] ↔ ∃ fields, json = .obj fields ∧
      Closed ["name", "guard"] fields ∧
        Has fields "name" (fun name => nameViolations name = []) ∧
        MayHave fields "guard" fun guard => guardViolations guard = [] := by
  have rules : checkViolations json = ofKind .object json
      ++ object ["name"] [("name", nameViolations), ("guard", guardViolations)] json := rfl
  rw [rules, objectRules_eq_nil_iff (by simp)]
  simp

theorem nodeViolations_eq_nil_iff {json : Json} :
    nodeViolations json = [] ↔ ∃ fields, json = .obj fields ∧
      Closed ["name", "predecessors", "inputs", "checks"] fields ∧
        Has fields "name" (fun name => nameViolations name = []) ∧
        MayHave fields "predecessors" (fun names =>
          namesViolations names = [] ∧ distinctItems names = []) ∧
        MayHave fields "inputs" (fun inputs =>
          ∃ items, inputs = .arr items ∧ ∀ item ∈ items, inputViolations item = []) ∧
        MayHave fields "checks" fun checks =>
          ∃ items, checks = .arr items ∧ ∀ item ∈ items, checkViolations item = [] := by
  have rules : nodeViolations json = ofKind .object json ++ object ["name"]
      [("name", nameViolations),
        ("predecessors", fun names => namesViolations names ++ distinctItems names),
        ("inputs", fun inputs => ofKind .array inputs ++ eachItem inputViolations inputs),
        ("checks", fun checks => ofKind .array checks ++ eachItem checkViolations checks)] json := rfl
  rw [rules, objectRules_eq_nil_iff (by simp)]
  simp only [List.append_eq_nil_iff, ← eachItem_array_eq_nil_iff]
  simp

theorem violations_eq_nil_iff {json : Json} :
    violations json = [] ↔ ∃ fields, json = .obj fields ∧
      Closed ["id", "trellis", "start", "nodes"] fields ∧
        Has fields "id" (fun id => nameViolations id = []) ∧
        Has fields "trellis" (fun version => version = .str supportedVersion) ∧
        MayHave fields "start" (fun start => nameViolations start = []) ∧
        Has fields "nodes" fun nodes => ∃ items, nodes = .arr items ∧ items ≠ [] ∧
          ∀ item ∈ items, nodeViolations item = [] := by
  have rules : violations json = ofKind .object json ++ object ["id", "trellis", "nodes"]
      [("id", nameViolations), ("trellis", equalTo (.str "1.0")), ("start", nameViolations),
        ("nodes", fun nodes =>
          ofKind .array nodes ++ minItems 1 nodes ++ eachItem nodeViolations nodes)] json := rfl
  rw [rules, objectRules_eq_nil_iff (by simp)]
  simp [supportedVersion, Json.equals_str_iff, someItems_eq_nil_iff, -List.append_eq_nil_iff,
    -List.append_assoc]

end Document

end ScenarioGraph
