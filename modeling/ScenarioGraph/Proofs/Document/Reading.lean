/-
# ScenarioGraph.Proofs.Document.Reading -- what the typed readers make of fields

A typed reader finds the fields of an object by their keys.  Here each of them is
given by the fields that it looks at, whatever other fields there are: the leaves,
the fields that may be absent, and conditions operator by operator.

* `readTexts_eq_ok_iff`, `readList_map`: lists.
* `Condition.readAt_sequence` and its kin: a condition by its operator and operands.
-/
import ScenarioGraph.Document.Reader
import ScenarioGraph.Proofs.Attempt

namespace ScenarioGraph

set_option autoImplicit false

/-! ## Parts of a value -/

namespace Json

theorem field?_eq_some {json value : Json} {key : String} (found : json.get? key = some value) :
    json.field? key = some ⟨value, sizeOf_get?_lt found⟩ := by
  unfold field?
  split
  · rename_i other same
    cases found.symm.trans same
    rfl
  · rename_i absent
    cases found.symm.trans absent

theorem get?_of_field? {json : Json} {part : json.Part} {key : String}
    (found : json.field? key = some part) : json.get? key = some part.val := by
  unfold field? at found
  split at found
  · cases found
    assumption
  · cases found

end Json

/-! ## Leaves -/

namespace Shape

variable {α : Type} {read : Json → Except ShapeError α}

theorem readText_eq_ok_iff {json : Json} {text : String} :
    readText json = .ok text ↔ json = .str text := by
  cases json <;> simp [readText, wrong]

theorem readList_eq_ok_iff {json : Json} {values : List α} :
    readList read json = .ok values ↔
      ∃ items, json = .arr items ∧ List.Forall₂ (fun item value => read item = .ok value) items values := by
  cases json <;> simp [readList, wrong, mapM_eq_ok_iff]

/-- A list of values that are read one by one. -/
theorem readList_map {write : α → Json} {values : List α}
    (inverse : ∀ value ∈ values, read (write value) = .ok value) :
    readList read (.arr (values.map write)) = .ok values := by
  refine readList_eq_ok_iff.2 ⟨_, rfl, ?_⟩
  rw [List.forall₂_map_left_iff, List.forall₂_same]
  exact inverse

theorem readTexts_ofStrings (texts : List String) : readTexts (.ofStrings texts) = .ok texts :=
  readList_map fun _ _ => rfl

/-! ## Fields -/

theorem readIfAny_eq_ok_some_iff {given : Option Json} {value : α} :
    readIfAny read given = .ok (some value) ↔ ∃ json, given = some json ∧ read json = .ok value := by
  cases given <;> simp [readIfAny, map_eq_ok_iff]

theorem required_eq_ok_iff {json : Json} {key : String} {place : Nat} {fields : Fields}
    {found : Option α} {value : α} :
    required json key place fields found = .ok value ↔ found = some value := by
  cases found with
  | none => cases json <;> simp [required]
  | some other => simp [required]

/-- What the items of a list stand for, if there is a list; without it there are none. -/
def Listed (given : Option Json) (stands : Json → α → Prop) (values : List α) : Prop :=
  match given with
  | none => values = []
  | some (.arr items) => List.Forall₂ stands items values
  | some _ => False

theorem Listed.mono {given : Option Json} {first second : Json → α → Prop} {values : List α}
    (read : Listed given first values)
    (implies : ∀ item value, first item value → second item value) :
    Listed given second values := by
  cases given with
  | none => exact read
  | some json =>
      cases json with
      | arr items => exact List.Forall₂.imp implies read
      | _ => exact read

end Shape

namespace Document

open Shape

variable {α : Type} {read : Json → Except ShapeError α}

theorem readListOrNone_eq_ok_iff {given : Option Json} {values : List α} :
    readListOrNone read given = .ok values ↔
      Listed given (fun json value => read json = .ok value) values := by
  cases given with
  | none => simp [readListOrNone, readIfAny, Listed, eq_comm]
  | some json =>
      cases json <;>
        simp [readListOrNone, readIfAny, readList, wrong, Listed, bind_eq_ok_iff, mapM_eq_ok_iff]

/-- Both a missing field and `null` stand for an absent value. -/
theorem readOptional_eq_ok_none_iff {given : Option Json} :
    readOptional read given = .ok none ↔ given = none ∨ given = some .null := by
  cases given with
  | none => simp [readOptional, readIfAny]
  | some json =>
      cases json <;>
        simp [readOptional, readIfAny, readOption, bind_eq_ok_iff]

theorem readOptional_eq_ok_some_iff {given : Option Json} {value : α} :
    readOptional read given = .ok (some value) ↔
      ∃ json, given = some json ∧ json ≠ .null ∧ read json = .ok value := by
  cases given with
  | none => simp [readOptional, readIfAny]
  | some json =>
      cases json <;>
        simp [readOptional, readIfAny, readOption, bind_eq_ok_iff]

end Document

/-! ## Conditions -/

namespace Condition

open Shape

variable {fields : List (String × Json)} {inside : Bool}

theorem operatorOf_eq_ok {operator : Operator}
    (marked : fields.lookup "op" = some (.str operator.name)) :
    Operator.of inside (.obj fields) = .ok operator := by
  unfold Operator.of
  simp only [Json.get?, marked]
  cases operator <;> rfl

theorem operand?_eq_some {key : String} {value : Json} (found : fields.lookup key = some value)
    (place : Nat) :
    operand? (.obj fields) key place = some ⟨value, Json.sizeOf_get?_lt found⟩ := by
  have inObject : (Json.obj fields).get? key = some value := found
  exact Json.field?_eq_some inObject

theorem readNames_eq_ok {operator : Operator} {names : List Name}
    (listed : fields.lookup "names" = some (.ofStrings names)) :
    readNames (.obj fields) operator = .ok names := by
  simp [readNames, operand?_eq_some listed, readIfAny, readTexts_ofStrings, need, required]

theorem readAt_sequence {names : List Name} (marked : fields.lookup "op" = some (.str "sequence"))
    (listed : fields.lookup "names" = some (.ofStrings names)) :
    readAt inside (.obj fields) = .ok (.sequence names) := by
  have operator : Operator.of inside (.obj fields) = .ok .sequence := operatorOf_eq_ok marked
  rw [readAt, operator]
  simp [readNames_eq_ok listed, noMore]

theorem readAt_lastIn {names : List Name} (marked : fields.lookup "op" = some (.str "last_in"))
    (listed : fields.lookup "names" = some (.ofStrings names)) :
    readAt inside (.obj fields) = .ok (.lastIn (NameSet.ofList names)) := by
  have operator : Operator.of inside (.obj fields) = .ok .lastIn := operatorOf_eq_ok marked
  rw [readAt, operator]
  simp [readNames_eq_ok listed, noMore]

theorem readAt_moreRecent {older newer : Name}
    (marked : fields.lookup "op" = some (.str "more_recent"))
    (before : fields.lookup "older" = some (.str older))
    (after : fields.lookup "newer" = some (.str newer)) :
    readAt inside (.obj fields) = .ok (.moreRecent older newer) := by
  have operator : Operator.of inside (.obj fields) = .ok .moreRecent := operatorOf_eq_ok marked
  have pair : readPair (.obj fields) = .ok (older, newer) := by
    simp [readPair, operand?_eq_some before, operand?_eq_some after, readIfAny, readText, need,
      required]
  rw [readAt, operator]
  simp [pair, noMore]

theorem readAt_and {left right : Json} {first second : Condition}
    (marked : fields.lookup "op" = some (.str "and"))
    (onLeft : fields.lookup "left" = some left) (onRight : fields.lookup "right" = some right)
    (readLeft : readAt true left = .ok first) (readRight : readAt true right = .ok second) :
    readAt inside (.obj fields) = .ok (.and first second) := by
  have operator : Operator.of inside (.obj fields) = .ok .and := operatorOf_eq_ok marked
  rw [readAt, operator]
  simp [operand?_eq_some onLeft, operand?_eq_some onRight, readLeft, readRight, need, required,
    noMore]

theorem readAt_or {left right : Json} {first second : Condition}
    (marked : fields.lookup "op" = some (.str "or"))
    (onLeft : fields.lookup "left" = some left) (onRight : fields.lookup "right" = some right)
    (readLeft : readAt true left = .ok first) (readRight : readAt true right = .ok second) :
    readAt inside (.obj fields) = .ok (.or first second) := by
  have operator : Operator.of inside (.obj fields) = .ok .or := operatorOf_eq_ok marked
  rw [readAt, operator]
  simp [operand?_eq_some onLeft, operand?_eq_some onRight, readLeft, readRight, need, required,
    noMore]

theorem readAt_not {inner : Json} {condition : Condition}
    (marked : fields.lookup "op" = some (.str "not"))
    (within : fields.lookup "inner" = some inner) (readInner : readAt true inner = .ok condition) :
    readAt inside (.obj fields) = .ok (.not condition) := by
  have operator : Operator.of inside (.obj fields) = .ok .not := operatorOf_eq_ok marked
  rw [readAt, operator]
  simp [operand?_eq_some within, readInner, need, required, noMore]

end Condition

/-! ## Entries that are given as objects -/

namespace Document

open Shape

variable {fields : List (String × Json)}

theorem InputEntry.read_obj_eq_ok_iff {entry : InputEntry} :
    InputEntry.read (.obj fields) = .ok entry ↔
      readOptional readText (fields.lookup "label") = .ok entry.label ∧
        readOptional GuardEntry.read (fields.lookup "guard") = .ok entry.guard := by
  simp only [InputEntry.read, Json.get?, bind_eq_ok_iff]
  constructor
  · rintro ⟨guard, readGuard, label, readLabel, made⟩
    cases made
    exact ⟨readLabel, readGuard⟩
  · rintro ⟨readLabel, readGuard⟩
    exact ⟨_, readGuard, _, readLabel, rfl⟩

theorem CheckEntry.read_obj_eq_ok_iff {entry : CheckEntry} :
    CheckEntry.read (.obj fields) = .ok entry ↔
      fields.lookup "name" = some (.str entry.name) ∧
        readOptional GuardEntry.read (fields.lookup "guard") = .ok entry.guard := by
  simp only [CheckEntry.read, Json.get?, bind_eq_ok_iff, required_eq_ok_iff]
  constructor
  · rintro ⟨guard, readGuard, _, readName, name, rfl, made⟩
    cases made
    obtain ⟨json, found, named⟩ := readIfAny_eq_ok_some_iff.1 readName
    rw [readText_eq_ok_iff.1 named] at found
    exact ⟨found, readGuard⟩
  · rintro ⟨found, readGuard⟩
    exact ⟨_, readGuard, _, readIfAny_eq_ok_some_iff.2 ⟨_, found, rfl⟩, _, rfl, rfl⟩

theorem NodeEntry.read_obj_eq_ok_iff {entry : NodeEntry} :
    NodeEntry.read (.obj fields) = .ok entry ↔
      fields.lookup "name" = some (.str entry.name) ∧
        Listed (fields.lookup "predecessors") (fun json name => readText json = .ok name)
          entry.predecessors ∧
        Listed (fields.lookup "inputs") (fun json input => InputEntry.read json = .ok input)
          entry.inputs ∧
        Listed (fields.lookup "checks") (fun json check => CheckEntry.read json = .ok check)
          entry.checks := by
  simp only [NodeEntry.read, Json.get?, bind_eq_ok_iff, required_eq_ok_iff,
    readListOrNone_eq_ok_iff]
  constructor
  · rintro ⟨checks, readChecks, inputs, readInputs, _, readName, predecessors, readPredecessors,
      name, rfl, made⟩
    cases made
    obtain ⟨json, found, named⟩ := readIfAny_eq_ok_some_iff.1 readName
    rw [readText_eq_ok_iff.1 named] at found
    exact ⟨found, readPredecessors, readInputs, readChecks⟩
  · rintro ⟨found, readPredecessors, readInputs, readChecks⟩
    exact ⟨_, readChecks, _, readInputs, _, readIfAny_eq_ok_some_iff.2 ⟨_, found, rfl⟩, _,
      readPredecessors, _, rfl, rfl⟩

theorem read_obj_eq_ok_iff {document : Document} :
    read (.obj fields) = .ok document ↔
      fields.lookup "id" = some (.str document.id) ∧
        fields.lookup "trellis" = some (.str document.version) ∧
        readOptional readText (fields.lookup "start") = .ok document.start ∧
        ∃ items, fields.lookup "nodes" = some (.arr items) ∧
          List.Forall₂ (fun json node => NodeEntry.read json = .ok node) items document.nodes := by
  simp only [read, Json.get?, bind_eq_ok_iff, required_eq_ok_iff]
  constructor
  · rintro ⟨_, readId, _, readNodes, start, readStart, _, readVersion, id, rfl, version, rfl, nodes,
      rfl, made⟩
    cases made
    obtain ⟨idJson, foundId, isId⟩ := readIfAny_eq_ok_some_iff.1 readId
    obtain ⟨versionJson, foundVersion, isVersion⟩ := readIfAny_eq_ok_some_iff.1 readVersion
    obtain ⟨nodesJson, foundNodes, areNodes⟩ := readIfAny_eq_ok_some_iff.1 readNodes
    obtain ⟨items, rfl, each⟩ := readList_eq_ok_iff.1 areNodes
    rw [readText_eq_ok_iff.1 isId] at foundId
    rw [readText_eq_ok_iff.1 isVersion] at foundVersion
    exact ⟨foundId, foundVersion, readStart, items, foundNodes, each⟩
  · rintro ⟨foundId, foundVersion, readStart, items, foundNodes, each⟩
    have areNodes := readList_eq_ok_iff.2 ⟨items, rfl, each⟩
    exact ⟨_, readIfAny_eq_ok_some_iff.2 ⟨_, foundId, rfl⟩, _,
      readIfAny_eq_ok_some_iff.2 ⟨_, foundNodes, areNodes⟩, _, readStart, _,
      readIfAny_eq_ok_some_iff.2 ⟨_, foundVersion, rfl⟩, _, rfl, _, rfl, _, rfl, rfl⟩

end Document

end ScenarioGraph
