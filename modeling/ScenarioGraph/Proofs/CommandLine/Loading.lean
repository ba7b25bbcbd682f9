/-
# ScenarioGraph.Proofs.CommandLine.Loading -- valid files load

The task `validate` looks at a file through the rules on documents, `plan` and `check`
through the checked parser.  A file that the first accepts is read by the others too; all
that can still be wrong with it is the graph, which the rules say nothing about.

* `OnlyMisconfigured`: an answer that can fail for the graph alone.
* `valid_documents_load`: what keeps the rules is loaded, and a file that is accepted is
  planned and checked without an error about the file.
-/
import ScenarioGraph.CommandLine.Run
import ScenarioGraph.Proofs.Document.Validity

namespace ScenarioGraph.CommandLine

set_option autoImplicit false

variable {α β : Type} {explain : Explainer} {files : Files} {path : String}

/-! ## Answers -/

/-- Whatever goes wrong is wrong with the graph, not with reading its document. -/
def OnlyMisconfigured (answer : Except Failure α) : Prop :=
  ∀ failure, answer = .error failure → ∃ cause, failure = .graphInvalid cause

theorem onlyMisconfigured_ok (a : α) : OnlyMisconfigured (.ok a) := by
  rintro failure ⟨⟩

theorem onlyMisconfigured_mapError (x : Except GraphError α) :
    OnlyMisconfigured (x.mapError .graphInvalid) := by
  intro failure failed
  obtain ⟨cause, -, rfl⟩ := mapError_eq_error_iff.1 failed
  exact ⟨cause, rfl⟩

theorem OnlyMisconfigured.bind {x : Except Failure α} {f : α → Except Failure β}
    (first : OnlyMisconfigured x) (rest : ∀ a, OnlyMisconfigured (f a)) :
    OnlyMisconfigured (x >>= f) := by
  intro failure failed
  rcases bind_eq_error_iff.1 failed with failed | ⟨a, -, failed⟩
  · exact first failure failed
  · exact rest a failure failed

theorem planAnswer_onlyMisconfigured (loaded : OnlyMisconfigured (loadGraph files path))
    (repetitions : Nat) : OnlyMisconfigured (planAnswer files path repetitions) := by
  refine loaded.bind fun _ => ?_
  refine (onlyMisconfigured_mapError _).bind fun _ => ?_
  exact (onlyMisconfigured_mapError _).bind fun _ => onlyMisconfigured_ok _

theorem checkAnswer_onlyMisconfigured (loaded : OnlyMisconfigured (loadGraph files path))
    (repetitions : Nat) : OnlyMisconfigured (checkAnswer files path repetitions) := by
  refine loaded.bind fun _ => ?_
  exact (onlyMisconfigured_mapError _).bind fun _ => onlyMisconfigured_ok _

/-! ## Files -/

theorem inOrder_of_readJson {json : Json} (done : readJson files path = .ok json) :
    json.InOrder := by
  obtain ⟨text, -, readText⟩ := bind_eq_ok_iff.1 done
  exact Json.inOrder_of_read (mapError_eq_ok_iff.1 readText)

/-- A file whose value keeps the rules has a document, so only its graph can be wrong. -/
theorem loadGraph_onlyMisconfigured {json : Json} (done : readJson files path = .ok json)
    (valid : Document.violations json = []) : OnlyMisconfigured (loadGraph files path) := by
  obtain ⟨document, -, parsed, -⟩ := Document.parse_of_valid (inOrder_of_readJson done) valid
  rw [loadGraph, done, ok_bind, parsed]
  exact (onlyMisconfigured_mapError _).bind fun _ => onlyMisconfigured_ok _

theorem violationTexts_eq_nil_iff :
    violationTexts files path = .ok [] ↔
      ∃ json, readJson files path = .ok json ∧ Document.violations json = [] := by
  rw [violationTexts, bind_eq_ok_iff]
  simp [← List.length_eq_zero_iff]

/-- A run that accepts a file has found no violations. -/
theorem violationTexts_of_code {options : Options}
    (accepted : (Invocation.run explain files ⟨options, .validate path⟩).code = 0) :
    violationTexts files path = .ok [] := by
  unfold Invocation.run at accepted
  dsimp only at accepted
  split at accepted
  · simp [Outcome.failure] at accepted
  · unfold runValidate at accepted
    split at accepted
    · simp [Outcome.failure] at accepted
    · assumption
    · unfold Outcome.violations at accepted
      split at accepted <;> simp at accepted

/-! ## Valid documents load -/

/-- **Valid documents load.**  A value that keeps the rules on documents is parsed, the
typed reader makes the same document of it, and this document as it is written keeps the
rules and is parsed again.  Objects have their fields in key order, as in every value that
is read from a text.  So if validation accepts a file, `plan` and `check` find at most the
graph of it wrong. -/
theorem valid_documents_load :
    (∀ json : Json, json.InOrder → Document.violations json = [] →
      ∃ document, Document.parse json = .ok document ∧ Document.read json = .ok document ∧
        Document.violations document.toJson = [] ∧
        Document.parse document.toJson = .ok document) ∧
    ∀ (explain : Explainer) (files : Files) (options : Options) (path : String),
      (Invocation.run explain files ⟨options, .validate path⟩).code = 0 → ∀ repetitions : Nat,
        OnlyMisconfigured (planAnswer files path repetitions) ∧
          OnlyMisconfigured (checkAnswer files path repetitions) := by
  constructor
  · intro json ordered valid
    obtain ⟨document, proper, parsed, read⟩ := Document.parse_of_valid ordered valid
    exact ⟨document, parsed, read, document.violations_toJson_iff.2 proper,
      document.parse_toJson_iff.2 ⟨proper.version, fun node member => (proper.nodes node member).name⟩⟩
  · intro explain files options path accepted repetitions
    obtain ⟨json, done, valid⟩ := violationTexts_eq_nil_iff.1 (violationTexts_of_code accepted)
    have loaded := loadGraph_onlyMisconfigured done valid
    exact ⟨planAnswer_onlyMisconfigured loaded repetitions,
      checkAnswer_onlyMisconfigured loaded repetitions⟩

/-- A document in which a nested condition decides on an input. -/
def guardedDoor : Json :=
  .obj [("id", .str "door"),
    ("nodes", .arr
      [.obj [("name", .str "Open")],
        .obj
          [("inputs", .arr
              [.obj
                [("guard", .obj
                    [("when", .obj
                      [("inner", .obj [("names", .ofStrings ["Open", "Open"]), ("op", .str "sequence")]),
                        ("op", .str "not")])]),
                  ("label", .str "close")]]),
            ("name", .str "Closed"),
            ("predecessors", .ofStrings ["Open"])]]),
    ("trellis", .str "1.0")]

/-- A file with a shorter document, and no other. -/
def doorFiles : Files where
  read path :=
    if path = "door.json" then
      .ok "\x7b\"id\":\"door\",\"nodes\":[\x7b\"name\":\"Open\"\x7d],\"trellis\":\"1.0\"\x7d".toUTF8
    else .error .missing
  isFile path := path = "door.json"

theorem guardedDoor_loads :
    (∃ document, Document.parse guardedDoor = .ok document ∧
        Document.read guardedDoor = .ok document ∧ Document.violations document.toJson = [] ∧
        Document.parse document.toJson = .ok document) ∧
      ∀ repetitions : Nat, OnlyMisconfigured (planAnswer doorFiles "door.json" repetitions) ∧
        OnlyMisconfigured (checkAnswer doorFiles "door.json" repetitions) := by
  have ordered : guardedDoor.InOrder := by
    -- What is left are comparisons of keys.
    simp only [guardedDoor, Json.ofStrings, Json.inOrder_obj_iff, Json.inOrder_arr_iff,
      Json.inOrder_str, List.pairwise_cons, List.Pairwise.nil, List.forall_mem_cons,
      List.forall_mem_map, List.not_mem_nil, false_imp_iff, implies_true, and_true, true_and]
    decide
  have valid : Document.violations guardedDoor = [] :=
    List.isEmpty_iff.1 (by decide +kernel)
  have accepted :
      (Invocation.run unexplained doorFiles ⟨⟨none, false, none⟩, .validate "door.json"⟩).code = 0 := by
    decide +kernel
  exact ⟨valid_documents_load.1 guardedDoor ordered valid,
    valid_documents_load.2 unexplained doorFiles _ "door.json" accepted⟩

end ScenarioGraph.CommandLine
