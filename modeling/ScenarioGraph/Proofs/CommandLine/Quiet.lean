/-
# ScenarioGraph.Proofs.CommandLine.Quiet -- one more argument

The argument `--quiet` may be put anywhere among accepted arguments.  Where it is accepted
too, it makes the invocation quiet and changes nothing else of it.

* `Hushed`: what the argument does to the words, wherever it is put.
* `Given.takeWord_cases`: a word is the flag, or has nothing to do with being quiet.
* `readTask_hushed`, `readWords_hushed`: reading the words with the flag and without it.
* `quiet_writes_only_violations`: what this says about runs.
-/
import ScenarioGraph.Proofs.CommandLine.Invocation

namespace ScenarioGraph.CommandLine

set_option autoImplicit false

/-! ## Words -/

/-- The words of some arguments, and the words with one more argument `--quiet`. -/
inductive Hushed : List Word → List Word → Prop where
  | flag (rest : List Word) : Hushed rest (.flag "quiet" :: rest)
  /-- An option finds the argument in the place of its value. -/
  | noValue (rest : List Word) (misuse : Misuse) : Hushed rest [.wrong misuse]
  /-- All options are over, so the argument is plain. -/
  | plain (before after : List String) :
      Hushed (.endOfOptions :: (before ++ after).map .plain)
        (.endOfOptions :: (before ++ "--quiet" :: after).map .plain)
  | later (word : Word) {rest rest' : List Word} (change : Hushed rest rest') :
      Hushed (word :: rest) (word :: rest')

theorem words_quiet (rest : List String) :
    words ("--quiet" :: rest) = .flag "quiet" :: words rest := by
  have flag : argumentOf "--quiet" = .word (.flag "quiet") := by decide +kernel
  rw [words, flag]

theorem not_canBeValue_quiet : ¬ canBeValue "--quiet" = true := by decide +kernel

/-- The induction follows the arguments that `words` takes at a time. -/
theorem words_hushed (front back : List String) :
    Hushed (words (front ++ back)) (words (front ++ "--quiet" :: back)) := by
  induction front using words.induct with
  | case1 =>
      rw [List.nil_append, List.nil_append, words_quiet]
      exact .flag _
  | case2 argument rest word kind ih =>
      simp only [List.cons_append, words, kind]
      exact .later word ih
  | case3 argument rest kind =>
      simp only [List.cons_append, words, kind]
      exact .plain rest back
  | case4 argument option kind value more isValue ih =>
      simp only [List.cons_append, words, kind, if_pos isValue]
      exact .later _ ih
  | case5 argument option kind value more noValue =>
      simp only [List.cons_append, words, kind, if_neg noValue]
      exact .noValue _ _
  | case6 argument option kind =>
      -- the value would have come next, and the flag comes instead
      rw [List.cons_append, List.nil_append, List.cons_append, List.nil_append]
      generalize words (argument :: back) = before
      simp only [words, kind, if_neg not_canBeValue_quiet]
      exact .noValue _ _

/-! ## One word -/

def Given.quieted (given : Given) : Given := { given with options := given.options.quieted }

variable {repeats : Bool} {given after : Given}

theorem Given.takeFlag_eq_ok {option : String} (taken : given.takeFlag option = .ok after) :
    option = "quiet" ∧ given.options.quiet = false ∧ after = given.quieted := by
  unfold takeFlag at taken
  split at taken
  · split at taken
    · cases taken
    · rename_i loud
      cases taken
      exact ⟨rfl, Bool.eq_false_iff.2 loud, rfl⟩
  · cases taken
  · cases taken

/-- A part of reading for which it makes no difference whether the run is quiet. -/
def Given.TakesLoudly (take : Given → Attempt Given) (given after : Given) : Prop :=
  take given.quieted = .ok after.quieted ∧ after.options.quiet = given.options.quiet

theorem Given.share_loudly {option value : String} (taken : given.share option value = .ok after) :
    TakesLoudly (·.share option value) given after := by
  unfold share at taken
  dsimp only at taken
  split at taken
  · obtain ⟨output, read, made⟩ := bind_eq_ok_iff.1 taken
    cases made
    exact ⟨bind_eq_ok_iff.2 ⟨output, read, rfl⟩, rfl⟩
  · obtain ⟨config, read, made⟩ := bind_eq_ok_iff.1 taken
    cases made
    exact ⟨bind_eq_ok_iff.2 ⟨config, read, rfl⟩, rfl⟩
  · cases taken

theorem Given.takePath_eq_ok_iff {text : String} :
    given.takePath text = .ok after ↔
      given.path = none ∧
        ∃ path, path? text = some path ∧ after = { given with path := some path } := by
  unfold takePath
  cases given.path with
  | some path => simp [misused]
  | none => cases path? text <;> simp [misused, eq_comm]

theorem Given.takeWord_setting {option : String} (other : option ≠ "repeat") (repeats : Bool)
    (given : Given) (value : String) :
    given.takeWord repeats (.setting option value) = given.share option value := by
  simp only [takeWord]

theorem Given.takeWord_repeat_loudly {value : String}
    (taken : given.takeWord repeats (.setting "repeat" value) = .ok after) :
    TakesLoudly (·.takeWord repeats (.setting "repeat" value)) given after := by
  cases repeats with
  | true =>
      obtain ⟨repetitions, read, made⟩ := bind_eq_ok_iff.1 taken
      cases made
      exact ⟨bind_eq_ok_iff.2 ⟨repetitions, read, rfl⟩, rfl⟩
  | false => cases taken

/-- What a word can do: it is the flag and hushes, or it has nothing to do with it. -/
theorem Given.takeWord_cases {word : Word} (taken : given.takeWord repeats word = .ok after) :
    (word = .flag "quiet" ∧ given.options.quiet = false ∧ after = given.quieted) ∨
      TakesLoudly (·.takeWord repeats word) given after := by
  cases word with
  | plain text =>
      obtain ⟨none, path, found, rfl⟩ := takePath_eq_ok_iff.1 taken
      exact Or.inr ⟨takePath_eq_ok_iff.2 ⟨none, path, found, rfl⟩, rfl⟩
  | setting option value =>
      right
      by_cases repetitions : option = "repeat"
      · subst repetitions
        exact takeWord_repeat_loudly taken
      · rw [takeWord_setting repetitions] at taken
        show given.quieted.takeWord repeats (.setting option value) = .ok after.quieted ∧ _
        rw [takeWord_setting repetitions]
        exact share_loudly taken
  | flag option =>
      obtain ⟨rfl, loud, rfl⟩ := takeFlag_eq_ok taken
      exact Or.inl ⟨rfl, loud, rfl⟩
  | letter letter =>
      by_cases help : letter = 'h'
      · subst help
        cases taken
      · simp only [takeWord] at taken
        cases taken
  | endOfOptions =>
      cases taken
      exact Or.inr ⟨rfl, rfl⟩
  | wrong misuse => cases taken

/-! ## The words after the name of the task -/

theorem readTask_cons_eq_ok_iff {word : Word} {rest : List Word} :
    readTask repeats given (word :: rest) = .ok after ↔
      ∃ next, given.takeWord repeats word = .ok next ∧ readTask repeats next rest = .ok after :=
  bind_eq_ok_iff

/-- What is quiet stays so, and what ends up loud may as well be quiet from the start. -/
theorem readTask_quieted {words : List Word} (read : readTask repeats given words = .ok after) :
    (given.options.quiet = true → after.options.quiet = true) ∧
      (after.options.quiet = false → readTask repeats given.quieted words = .ok after.quieted) := by
  induction words generalizing given with
  | nil =>
      cases read
      exact ⟨id, fun _ => rfl⟩
  | cons word rest ih =>
      obtain ⟨next, taken, read⟩ := readTask_cons_eq_ok_iff.1 read
      obtain ⟨stays, hushes⟩ := ih read
      rcases Given.takeWord_cases taken with ⟨-, loud, rfl⟩ | ⟨takenToo, same⟩
      · have quiet := stays rfl
        rw [loud, quiet]
        exact ⟨fun _ => rfl, fun impossible => by cases impossible⟩
      · rw [← same]
        exact ⟨stays, fun loud => readTask_cons_eq_ok_iff.2 ⟨_, takenToo, hushes loud⟩⟩

/-- A task takes one plain word, its path. -/
theorem readTask_plain {texts : List String}
    (read : readTask repeats given (texts.map .plain) = .ok after) :
    given.path.toList.length + texts.length = after.path.toList.length := by
  induction texts generalizing given with
  | nil =>
      cases read
      rfl
  | cons text rest ih =>
      obtain ⟨next, taken, read⟩ := readTask_cons_eq_ok_iff.1 read
      obtain ⟨none, path, -, rfl⟩ := Given.takePath_eq_ok_iff.1 taken
      have counted := ih read
      rw [none, List.length_cons, ← counted]
      simp only [Option.toList_none, Option.toList_some, List.length_nil, List.length_singleton]
      omega

/-- The flag makes the options quiet and changes nothing else. -/
theorem readTask_hushed {words words' : List Word} (change : Hushed words words') {after' : Given}
    (read : readTask repeats given words = .ok after) (loud : after.options.quiet = false)
    (path : after.path.isSome) (readToo : readTask repeats given words' = .ok after') :
    after' = after.quieted := by
  induction change generalizing given with
  | flag rest =>
      obtain ⟨next, taken, readToo⟩ := readTask_cons_eq_ok_iff.1 readToo
      obtain ⟨-, -, rfl⟩ := Given.takeFlag_eq_ok (show given.takeFlag "quiet" = .ok next from taken)
      rw [(readTask_quieted read).2 loud] at readToo
      exact (Except.ok.inj readToo).symm
  | noValue rest misuse => cases readToo
  | plain before texts =>
      obtain ⟨_, taken, read⟩ := readTask_cons_eq_ok_iff.1 read
      cases taken
      obtain ⟨_, taken, readToo⟩ := readTask_cons_eq_ok_iff.1 readToo
      cases taken
      have counted := readTask_plain read
      have countedToo := readTask_plain readToo
      have atMostOne : after'.path.toList.length ≤ 1 := by cases after'.path <;> simp
      obtain ⟨found, present⟩ := Option.isSome_iff_exists.1 path
      rw [present, List.length_append, Option.toList_some, List.length_singleton] at counted
      rw [List.length_append, List.length_cons] at countedToo
      omega
  | later word change ih =>
      obtain ⟨next, taken, read⟩ := readTask_cons_eq_ok_iff.1 read
      obtain ⟨_, takenToo, readToo⟩ := readTask_cons_eq_ok_iff.1 readToo
      obtain rfl := Except.ok.inj (taken.symm.trans takenToo)
      exact ih read readToo

/-! ## Invocations -/

variable {words words' : List Word} {made made' : Invocation}

theorem invocation_quieted {before : Options} {name : String}
    (read : invocation before name words = .ok made) :
    (before.quiet = true → made.options.quiet = true) ∧
      invocation before.quieted name words = .ok made.quieted := by
  obtain ⟨repeats, task, named, given, words, path, found, rfl⟩ := invocation_eq_ok_iff.1 read
  constructor
  · intro quiet
    show (before.quiet || given.options.quiet) = true
    rw [quiet, Bool.true_or]
  · exact invocation_eq_ok_iff.2 ⟨repeats, task, named, given, words, path, found, rfl⟩

theorem invocation_hushed {before : Options} {name : String} (change : Hushed words words')
    (read : invocation before name words = .ok made) (loud : made.options.quiet = false)
    (readToo : invocation before name words' = .ok made') : made' = made.quieted := by
  obtain ⟨repeats, task, named, given, taken, path, found, rfl⟩ := invocation_eq_ok_iff.1 read
  obtain ⟨_, _, namedToo, given', takenToo, path', found', rfl⟩ :=
    invocation_eq_ok_iff.1 readToo
  cases named.symm.trans namedToo
  have silent : given.options.quiet = false := (Bool.or_eq_false_iff.1 loud).2
  obtain rfl :=
    readTask_hushed change taken silent (Option.isSome_iff_exists.2 ⟨path, found⟩) takenToo
  obtain rfl := Option.some.inj (found.symm.trans found')
  unfold Invocation.quieted Options.quieted Options.join Given.quieted Options.quieted
  rw [Bool.or_true]

/-- What the first word can be, when an invocation is read. -/
theorem readWords_cons_eq_ok {word : Word} (read : readWords given (word :: words) = .ok made) :
    (∃ name, word = .plain name ∧ invocation given.options name words = .ok made) ∨
      (∃ option value next, word = .setting option value ∧
        given.share option value = .ok next ∧ readWords next words = .ok made) ∨
      (word = .flag "quiet" ∧ readWords given.quieted words = .ok made) := by
  cases word with
  | plain name => exact Or.inl ⟨name, rfl, read⟩
  | setting option value =>
      obtain ⟨next, taken, read⟩ := bind_eq_ok_iff.1 read
      exact Or.inr (Or.inl ⟨option, value, next, rfl, taken, read⟩)
  | flag option =>
      by_cases version : option = "version"
      · subst version
        cases read
      · simp only [readWords] at read
        obtain ⟨next, taken, read⟩ := bind_eq_ok_iff.1 read
        obtain ⟨rfl, -, rfl⟩ := Given.takeFlag_eq_ok taken
        exact Or.inr (Or.inr ⟨rfl, read⟩)
  | letter letter =>
      by_cases help : letter = 'h'
      · subst help
        cases read
      · by_cases version : letter = 'V'
        · subst version
          cases read
        · simp only [readWords] at read
          cases read
  | endOfOptions => cases read
  | wrong misuse => cases read

theorem readWords_quieted (read : readWords given words = .ok made) :
    (given.options.quiet = true → made.options.quiet = true) ∧
      (made.options.quiet = false → readWords given.quieted words = .ok made.quieted) := by
  induction words generalizing given with
  | nil => cases read
  | cons word rest ih =>
      rcases readWords_cons_eq_ok read with
        ⟨name, rfl, named⟩ | ⟨option, value, next, rfl, taken, later⟩ | ⟨rfl, later⟩
      · obtain ⟨stays, hushes⟩ := invocation_quieted named
        exact ⟨stays, fun _ => hushes⟩
      · obtain ⟨takenToo, same⟩ := Given.share_loudly taken
        obtain ⟨stays, hushes⟩ := ih later
        rw [← same]
        exact ⟨stays, fun loud => bind_eq_ok_iff.2 ⟨_, takenToo, hushes loud⟩⟩
      · have quiet := (ih later).1 rfl
        rw [quiet]
        exact ⟨fun _ => rfl, fun impossible => by cases impossible⟩

/-- The flag makes the invocation quiet and changes nothing else. -/
theorem readWords_hushed (change : Hushed words words') (read : readWords given words = .ok made)
    (loud : made.options.quiet = false) (readToo : readWords given words' = .ok made') :
    made' = made.quieted := by
  induction change generalizing given with
  | flag rest =>
      have hushed : readWords given.quieted rest = .ok made' := by
        rcases readWords_cons_eq_ok readToo with ⟨_, ⟨⟩, -⟩ | ⟨_, _, _, ⟨⟩, -⟩ | ⟨-, hushed⟩
        exact hushed
      rw [(readWords_quieted read).2 loud] at hushed
      exact (Except.ok.inj hushed).symm
  | noValue rest misuse => cases readToo
  | plain before after => cases read
  | later word change ih =>
      rcases readWords_cons_eq_ok read with
        ⟨name, rfl, named⟩ | ⟨option, value, next, rfl, taken, later⟩ | ⟨rfl, later⟩
      · exact invocation_hushed change named loud readToo
      · obtain ⟨_, takenToo, readToo⟩ := bind_eq_ok_iff.1 readToo
        obtain rfl := Except.ok.inj (taken.symm.trans takenToo)
        exact ih later readToo
      · have quiet := (readWords_quieted later).1 rfl
        rw [loud] at quiet
        cases quiet

/-- In front of accepted arguments, the flag is always accepted. -/
theorem ofArguments_quiet {arguments : List String}
    (accepted : Invocation.ofArguments arguments = .ok made) (loud : made.options.quiet = false) :
    Invocation.ofArguments ("--quiet" :: arguments) = .ok made.quieted := by
  unfold Invocation.ofArguments at accepted ⊢
  rw [words_quiet]
  exact (readWords_quieted accepted).2 loud

theorem ofArguments_hushed {front back : List String}
    (accepted : Invocation.ofArguments (front ++ back) = .ok made)
    (loud : made.options.quiet = false)
    (acceptedToo : Invocation.ofArguments (front ++ "--quiet" :: back) = .ok made') :
    made' = made.quieted :=
  readWords_hushed (words_hushed front back) accepted loud acceptedToo

theorem outcomeWith_ok {arguments : List String}
    (accepted : Invocation.ofArguments arguments = .ok made) (explain : Explainer)
    (files : Files) : outcomeWith explain files arguments = made.run explain files := by
  rw [outcomeWith, accepted]

/-! ## Quiet runs -/

/-- **A quiet run writes nothing but violations in JSON.**  Wherever `--quiet` is put among
accepted arguments, if it is accepted too, the exit code stays as it was; and nothing is
written, except by a run that reports violations in JSON, which writes what it would
otherwise.  In front of the arguments the flag is always accepted. -/
theorem quiet_writes_only_violations {arguments : List String} {made : Invocation}
    (accepted : Invocation.ofArguments arguments = .ok made)
    (loud : made.options.quiet = false) (explain : Explainer) (files : Files) :
    (∃ made', Invocation.ofArguments ("--quiet" :: arguments) = .ok made') ∧
      ∀ front back made', arguments = front ++ back →
        Invocation.ofArguments (front ++ "--quiet" :: back) = .ok made' →
        let outcome := outcomeWith explain files arguments
        let quiet := outcomeWith explain files (front ++ "--quiet" :: back)
        quiet.code = outcome.code ∧ quiet.output = "" ∧
          (quiet.errors = "" ↔ ¬ made.ReportsInJson explain files) ∧
          (made.ReportsInJson explain files → quiet = outcome) := by
  refine ⟨⟨_, ofArguments_quiet accepted loud⟩, ?_⟩
  rintro front back made' rfl acceptedToo
  obtain rfl := ofArguments_hushed accepted loud acceptedToo
  dsimp only
  rw [outcomeWith_ok accepted, outcomeWith_ok acceptedToo]
  by_cases reports : made.ReportsInJson explain files
  · obtain ⟨same, -, output, errors⟩ := Invocation.run_of_reportsInJson reports
    rw [same]
    exact ⟨rfl, output, iff_of_false errors (not_not_intro reports), fun _ => rfl⟩
  · rw [Invocation.run_quieted reports]
    exact ⟨rfl, rfl, iff_of_true rfl reports, fun reports' => absurd reports' reports⟩

/-! ## A document without fields -/

/-- One file, with an object that is no document. -/
def bareFiles : Files where
  read path := if path = "bare.json" then .ok "\x7b\x7d".toUTF8 else .error .missing
  isFile path := path = "bare.json"

/-- Its check ends with the same code with the flag, in silence. -/
theorem bare_check_quiet :
    let outcome := outcomeOf bareFiles ["--output", "json", "check", "bare.json"]
    let quiet := outcomeOf bareFiles ["--output", "json", "check", "--quiet", "bare.json"]
    quiet.code = outcome.code ∧ quiet.output = "" ∧ quiet.errors = "" := by
  have accepted : Invocation.ofArguments ["--output", "json", "check", "bare.json"] =
      .ok ⟨⟨some .json, false, none⟩, .check "bare.json" none⟩ := by decide +kernel
  have acceptedToo : Invocation.ofArguments ["--output", "json", "check", "--quiet", "bare.json"] =
      .ok ⟨⟨some .json, true, none⟩, .check "bare.json" none⟩ := by decide +kernel
  obtain ⟨code, output, silent, -⟩ :=
    (quiet_writes_only_violations accepted rfl unexplained bareFiles).2 ["--output", "json", "check"]
      ["bare.json"] _ rfl acceptedToo
  refine ⟨code, output, silent.2 ?_⟩
  rintro ⟨path, ⟨⟩, -⟩

theorem bare_reportsInJson (quiet : Bool) :
    Invocation.ReportsInJson ⟨⟨some .json, quiet, none⟩, .validate "bare.json"⟩ unexplained
      bareFiles := by
  have settings : findSettings unexplained bareFiles none = .ok .empty := by decide +kernel
  refine ⟨"bare.json", rfl, ⟨.empty, settings, rfl⟩, exists_violationTexts_iff.2 ?_⟩
  have counted : ((readJson bareFiles "bare.json").toOption.map fun json =>
      (Document.violations json).length) = some 3 := by decide +kernel
  cases read : readJson bareFiles "bare.json" with
  | error cause =>
      rw [read] at counted
      cases counted
  | ok json =>
      rw [read] at counted
      refine ⟨json, rfl, fun none => ?_⟩
      rw [Except.toOption, Option.map_some, none] at counted
      cases counted

/-- Its validation writes a report with the flag as without it. -/
theorem bare_validate_reports :
    Invocation.ofArguments ["validate", "bare.json", "--output", "json"] =
        .ok ⟨⟨some .json, false, none⟩, .validate "bare.json"⟩ ∧
      (outcomeOf bareFiles ["validate", "bare.json", "--output", "json", "--quiet"]).errors ≠
        "" := by
  refine ⟨by decide +kernel, ?_⟩
  have accepted : Invocation.ofArguments ["validate", "bare.json", "--output", "json", "--quiet"] =
      .ok ⟨⟨some .json, true, none⟩, .validate "bare.json"⟩ := by decide +kernel
  rw [outcomeOf, outcomeWith_ok accepted]
  exact (Invocation.run_of_reportsInJson (bare_reportsInJson true)).2.2.2

end ScenarioGraph.CommandLine
