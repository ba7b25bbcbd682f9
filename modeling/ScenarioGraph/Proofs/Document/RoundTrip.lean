/-
# ScenarioGraph.Proofs.Document.RoundTrip -- documents read back as they were written

The writer drops absent values and puts the members of sets in order; the typed
reader takes absent fields for absent values and builds sets from lists, so it
gives back what was written, however conditions are nested.  The checked parser
gives back the documents of the supported version whose nodes have names, and it
never makes any others.

* `Condition.readAt_toJson`, `read_toJson`: the typed reader inverts the writer.
* `parse_toJson_iff`: what the checked parser gives back.
* `supported_of_parse`: what it makes.
-/
import ScenarioGraph.Document.Writer
import ScenarioGraph.Proofs.Document.Agreement

namespace ScenarioGraph

set_option autoImplicit false

/-! ## Conditions -/

theorem NameSet.ofList_toList (set : NameSet) : NameSet.ofList set.toList = set :=
  NameSet.ext fun _ => NameSet.mem_ofList

theorem Condition.readAt_toJson (condition : Condition) (inside : Bool) :
    Condition.readAt inside condition.toJson = .ok condition := by
  induction condition generalizing inside with
  | sequence names => exact readAt_sequence rfl rfl
  | moreRecent older newer => exact readAt_moreRecent rfl rfl rfl
  | lastIn names =>
      refine (readAt_lastIn rfl rfl).trans ?_
      rw [NameSet.ofList_toList]
  | and left right ihLeft ihRight => exact readAt_and rfl rfl rfl (ihLeft true) (ihRight true)
  | or left right ihLeft ihRight => exact readAt_or rfl rfl rfl (ihLeft true) (ihRight true)
  | not inner ih => exact readAt_not rfl rfl (ih true)

namespace Document

open Shape

/-! ## Entries -/

theorem GuardEntry.read_toJson (entry : GuardEntry) : GuardEntry.read entry.toJson = .ok entry := by
  cases entry with
  | after names =>
      show after <$> readTexts (.ofStrings names) = _
      rw [readTexts_ofStrings, map_ok]
  | when condition =>
      show when <$> Condition.read condition.toJson = _
      rw [Condition.read, condition.readAt_toJson, map_ok]

theorem GuardEntry.toJson_ne_null (entry : GuardEntry) : entry.toJson ≠ .null := by
  cases entry <;> simp [GuardEntry.toJson]

/-- A value that is written if it is there, and not as `null`. -/
theorem readOptional_map {α : Type} {read : Json → Except ShapeError α} {write : α → Json}
    {value : Option α} (inverse : ∀ value, read (write value) = .ok value)
    (given : ∀ value, write value ≠ .null) :
    readOptional read (value.map write) = .ok value := by
  cases value with
  | none => exact readOptional_eq_ok_none_iff.2 (Or.inl rfl)
  | some value => exact readOptional_eq_ok_some_iff.2 ⟨_, rfl, given value, inverse value⟩

theorem readOptional_text (text : Option String) :
    readOptional readText (text.map Json.str) = .ok text := by
  refine readOptional_map (fun _ => rfl) fun written => ?_
  simp

theorem readOptional_guard (guard : Option GuardEntry) :
    readOptional GuardEntry.read (guard.map GuardEntry.toJson) = .ok guard :=
  readOptional_map GuardEntry.read_toJson GuardEntry.toJson_ne_null

theorem listed_map {α : Type} {stands : Json → α → Prop} {write : α → Json} {values : List α}
    (inverse : ∀ value ∈ values, stands (write value) value) :
    Listed (some (.arr (values.map write))) stands values := by
  show List.Forall₂ stands (values.map write) values
  rw [List.forall₂_map_left_iff, List.forall₂_same]
  exact inverse

theorem InputEntry.get?_toJson (entry : InputEntry) :
    entry.toJson.get? "label" = entry.label.map .str ∧
      entry.toJson.get? "guard" = entry.guard.map GuardEntry.toJson := by
  rcases entry with ⟨_ | label, _ | guard⟩ <;> exact ⟨rfl, rfl⟩

theorem CheckEntry.get?_toJson (entry : CheckEntry) :
    entry.toJson.get? "name" = some (.str entry.name) ∧
      entry.toJson.get? "guard" = entry.guard.map GuardEntry.toJson := by
  rcases entry with ⟨name, _ | guard⟩ <;> exact ⟨rfl, rfl⟩

theorem parseInput_toJson (entry : InputEntry) : parseInput entry.toJson = .ok entry := by
  obtain ⟨label, guard⟩ := entry.get?_toJson
  rw [parseInput_eq_ok_iff, label, guard]
  exact ⟨readOptional_text entry.label, readOptional_guard entry.guard⟩

theorem parseCheck_toJson (entry : CheckEntry) : parseCheck entry.toJson = .ok entry := by
  obtain ⟨name, guard⟩ := entry.get?_toJson
  rw [parseCheck_eq_ok_iff, name, guard]
  exact ⟨rfl, readOptional_guard entry.guard⟩

/-- A node is parsed as it was written exactly if it has a name. -/
theorem parseNode_toJson_iff (entry : NodeEntry) (index : Nat) :
    parseNode index entry.toJson = .ok entry ↔ entry.name ≠ "" := by
  rw [parseNode_eq_ok_iff]
  constructor
  · rintro ⟨-, named, -⟩
    exact named
  · intro named
    refine ⟨rfl, named, listed_map fun _ _ => rfl, ?_, ?_⟩
    · exact listed_map fun input _ => parseInput_toJson input
    · exact listed_map fun check _ => parseCheck_toJson check

theorem NodeEntry.read_toJson (entry : NodeEntry) : NodeEntry.read entry.toJson = .ok entry := by
  refine NodeEntry.read_obj_eq_ok_iff.2 ⟨rfl, listed_map fun _ _ => rfl, ?_, ?_⟩
  · refine listed_map fun input _ => ?_
    exact (parseInput_agrees (parseInput_toJson input)).2 trivial
  · exact listed_map fun check _ => parseCheck_agrees (parseCheck_toJson check)

/-! ## Documents -/

theorem get?_toJson (document : Document) :
    document.toJson.get? "trellis" = some (.str document.version) ∧
      document.toJson.get? "start" = document.start.map .str := by
  rcases document with ⟨id, version, _ | start, nodes⟩ <;> exact ⟨rfl, rfl⟩

/-- The typed reader gives back every document. -/
theorem read_toJson (document : Document) : read document.toJson = .ok document := by
  obtain ⟨version, start⟩ := document.get?_toJson
  refine read_obj_eq_ok_iff.2 ⟨rfl, version, ?_, _, rfl, ?_⟩
  · exact (congrArg (readOptional readText) start).trans (readOptional_text document.start)
  · exact listed_map fun node _ => node.read_toJson

/-- The parser gives back the documents of the supported version whose nodes have names. -/
theorem parse_toJson_iff (document : Document) :
    parse document.toJson = .ok document ↔
      document.version = supportedVersion ∧ ∀ node ∈ document.nodes, node.name ≠ "" := by
  obtain ⟨version, start⟩ := document.get?_toJson
  rw [parse_eq_ok_iff, version, start]
  constructor
  · rintro ⟨-, -, supported, -, items, listed, each⟩
    cases listed
    rw [List.forall₂_map_left_iff, List.forall₂_same] at each
    exact ⟨supported, fun node member => (parseNode_toJson_iff node 0).1 (each node member)⟩
  · rintro ⟨supported, named⟩
    refine ⟨rfl, rfl, supported, readOptional_text document.start, _, rfl, ?_⟩
    exact listed_map fun node member => (parseNode_toJson_iff node 0).2 (named node member)

/-- The parser makes documents of the supported version whose nodes have names. -/
theorem supported_of_parse {json : Json} {document : Document} (parsed : parse json = .ok document) :
    document.version = supportedVersion ∧ ∀ node ∈ document.nodes, node.name ≠ "" := by
  obtain ⟨-, -, supported, -, items, -, each⟩ := parse_eq_ok_iff.1 parsed
  refine ⟨supported, fun node member => ?_⟩
  obtain ⟨item, made⟩ := exists_forall₂_iff.1 ⟨_, each.flip⟩ node member
  exact (parseNode_eq_ok_iff.1 made).2.1

/-- **Documents read back as they were written.**  The typed reader gives back every
document; the parser those of the supported version whose nodes have names, and it makes
no others, so that it gives back everything that it makes. -/
theorem document_reads_back (document : Document) :
    read document.toJson = .ok document ∧
      (parse document.toJson = .ok document ↔
        document.version = supportedVersion ∧ ∀ node ∈ document.nodes, node.name ≠ "") ∧
      ∀ json, parse json = .ok document →
        (document.version = supportedVersion ∧ ∀ node ∈ document.nodes, node.name ≠ "") ∧
          parse document.toJson = .ok document := by
  refine ⟨document.read_toJson, document.parse_toJson_iff, fun json parsed => ?_⟩
  exact ⟨supported_of_parse parsed, document.parse_toJson_iff.2 (supported_of_parse parsed)⟩

/-- A document with nested conditions, in which nothing that may be absent is absent. -/
def barrier : Document :=
  { id := "barrier"
    version := "1.0"
    start := some "Down"
    nodes :=
      [ ⟨"Down", ["Up"], [⟨some "lower", some (.after ["Up"])⟩, ⟨none, none⟩], []⟩,
        ⟨"Up", ["Down", "Down"], [],
          [⟨"raised", some (.when (.and (.not (.lastIn (NameSet.ofList ["Up", "Down"])))
            (.or (.sequence ["Down", "Up"]) (.moreRecent "Up" "Down"))))⟩]⟩ ] }

theorem barrier_reads_back :
    read barrier.toJson = .ok barrier ∧ parse barrier.toJson = .ok barrier ∧
      barrier.version = supportedVersion ∧ ∀ node ∈ barrier.nodes, node.name ≠ "" := by
  obtain ⟨read, parses, made⟩ := document_reads_back barrier
  have parsed := parses.2 ⟨rfl, by decide⟩
  exact ⟨read, parsed, (made barrier.toJson parsed).1⟩

end Document

end ScenarioGraph
