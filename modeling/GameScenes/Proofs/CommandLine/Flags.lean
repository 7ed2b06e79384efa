import GameScenes.CommandLine

/-!
# What arguments say

Arguments are read as settings, each of which is a switch or a flag with the value behind it,
whatever the value looks like.  An argument list is settings and then what reading stops at, and it
is so in one way only; help, the faults and the command that arguments ask for are all said by it
(`read_settings`).
-/

set_option autoImplicit false

namespace GameScenes.CommandLine

/-! ## Settings -/

/-- A flag that is followed by a value. -/
inductive ValueFlag where
  | spec
  | project
  | assetsFallback
  | prefer
  deriving DecidableEq, Repr

def ValueFlag.word : ValueFlag → String
  | spec => "--spec"
  | project => "--project"
  | assetsFallback => "--assets-fallback"
  | prefer => "--prefer"

/-- The word of the switch. -/
def switchWord : String := "--json"

/-- The words that ask for help. -/
def helpWords : List String := ["-h", "--help"]

inductive Setting where
  | given (flag : ValueFlag) (value : String)
  | switch
  deriving DecidableEq, Repr

def Setting.words : Setting → List String
  | given flag value => [flag.word, value]
  | switch => [switchWord]

/-- The words of settings in order. -/
def wordsOf (settings : List Setting) : List String := settings.flatMap Setting.words

/-- The value that a setting gives to a flag. -/
def Setting.valueOf? (flag : ValueFlag) : Setting → Option String
  | given other value => if other = flag then some value else none
  | switch => none

/-- The values that settings give to a flag, in order. -/
def valuesOf (flag : ValueFlag) (settings : List Setting) : List String :=
  settings.filterMap (·.valueOf? flag)

/-- That a word stands where a flag is expected. -/
def InFlagPosition (arguments : List String) (word : String) : Prop :=
  ∃ settings rest, arguments = wordsOf settings ++ word :: rest

/-- That the last argument is a flag, and stands where one is expected. -/
def LacksValue (arguments : List String) (flag : ValueFlag) : Prop :=
  ∃ settings, arguments = wordsOf settings ++ [flag.word]

/-- Whether a word means something where a flag is expected. -/
def IsKnown (word : String) : Prop :=
  word ∈ helpWords ∨ word = switchWord ∨ ∃ flag : ValueFlag, word = flag.word

theorem ValueFlag.word_inj {flag other : ValueFlag} (same : flag.word = other.word) :
    flag = other := by
  revert same
  cases flag <;> cases other <;> decide

theorem ValueFlag.word_ne_switchWord (flag : ValueFlag) : flag.word ≠ switchWord := by
  cases flag <;> decide

@[simp] theorem wordsOf_nil : wordsOf [] = [] := rfl

@[simp] theorem wordsOf_given (flag : ValueFlag) (value : String) (settings : List Setting) :
    wordsOf (.given flag value :: settings) = flag.word :: value :: wordsOf settings := rfl

@[simp] theorem wordsOf_switch (settings : List Setting) :
    wordsOf (.switch :: settings) = switchWord :: wordsOf settings := rfl

theorem wordsOf_append (settings others : List Setting) :
    wordsOf (settings ++ others) = wordsOf settings ++ wordsOf others := List.flatMap_append

/-- Words are settings in one way: the settings that they begin with are the first of them. -/
theorem eq_append_of_wordsOf {settings others : List Setting} {rest : List String}
    (same : wordsOf settings = wordsOf others ++ rest) :
    ∃ more, settings = others ++ more ∧ rest = wordsOf more := by
  induction others generalizing settings with
  | nil => exact ⟨settings, rfl, same.symm⟩
  | cons other others ih =>
      cases settings with
      | nil => cases other <;> simp at same
      | cons setting settings =>
          cases setting with
          | given flag value =>
              cases other with
              | given first second =>
                  simp only [wordsOf_given, List.cons_append, List.cons.injEq] at same
                  obtain ⟨word, rfl, later⟩ := same
                  obtain ⟨more, rfl, left⟩ := ih later
                  exact ⟨more, by rw [ValueFlag.word_inj word]; rfl, left⟩
              | switch => exact absurd (List.cons.inj same).1 flag.word_ne_switchWord
          | switch =>
              cases other with
              | given first second =>
                  exact absurd (List.cons.inj same).1.symm first.word_ne_switchWord
              | switch =>
                  obtain ⟨more, rfl, left⟩ := ih (List.cons.inj same).2
                  exact ⟨more, rfl, left⟩

/-! ## Reading -/

/-- What flags hold after a setting. -/
def Flags.take (flags : Flags) : Setting → Flags
  | .given .spec value => { flags with spec := some value }
  | .given .project value => { flags with project := some value }
  | .given .assetsFallback value => { flags with assetsFallback := some value }
  | .given .prefer value => { flags with prefer := flags.prefer ++ [value] }
  | .switch => { flags with json := true }

theorem withValue?_eq_none {word : String} (other : ∀ flag : ValueFlag, word ≠ flag.word) :
    withValue? word = none := by
  unfold withValue?
  split
  · exact absurd rfl (other .spec)
  · exact absurd rfl (other .project)
  · exact absurd rfl (other .assetsFallback)
  · exact absurd rfl (other .prefer)
  · rfl

section

variable (flags : Flags)

theorem readFlags_help {word : String} (asks : word ∈ helpWords) (rest : List String) :
    readFlags flags (word :: rest) = .ok none := by
  have asked : word = "-h" ∨ word = "--help" := by simpa [helpWords] using asks
  unfold readFlags
  rw [if_pos asked]

theorem readFlags_word (flag : ValueFlag) (value : String) (rest : List String) :
    readFlags flags (flag.word :: value :: rest) =
      readFlags (flags.take (.given flag value)) rest := by
  cases flag <;> rfl

theorem readFlags_missing (flag : ValueFlag) :
    readFlags flags [flag.word] = .error (.missingValue flag.word) := by
  cases flag <;> rfl

theorem readFlags_unknown {word : String} (unknown : ¬ IsKnown word) (rest : List String) :
    readFlags flags (word :: rest) = .error (.unknown word) := by
  simp only [IsKnown, not_or, not_exists] at unknown
  obtain ⟨noHelp, noSwitch, noFlag⟩ := unknown
  have asks : ¬ (word = "-h" ∨ word = "--help") := by simpa [helpWords] using noHelp
  unfold readFlags
  rw [if_neg asks, if_neg (show ¬ word = "--json" from noSwitch), withValue?_eq_none noFlag]

/-- Settings are taken one after the other. -/
theorem readFlags_wordsOf (settings : List Setting) (rest : List String) :
    readFlags flags (wordsOf settings ++ rest) =
      readFlags (settings.foldl Flags.take flags) rest := by
  induction settings generalizing flags with
  | nil => rfl
  | cons setting settings ih =>
      rw [List.foldl_cons, ← ih]
      cases setting with
      | given flag value => exact readFlags_word flags flag value _
      | switch => rfl

end

/-- Where reading stops: behind the last setting, or at a word that asks for help, is not known or
lacks its value. -/
inductive Stops : List String → Prop where
  | done : Stops []
  | help {word : String} (asks : word ∈ helpWords) (rest : List String) : Stops (word :: rest)
  | unknown {word : String} (unknown : ¬ IsKnown word) (rest : List String) : Stops (word :: rest)
  | missing (flag : ValueFlag) : Stops [flag.word]

/-- Every argument list is settings and then something that reading stops at. -/
theorem exists_settings : ∀ arguments : List String,
    ∃ settings rest, arguments = wordsOf settings ++ rest ∧ Stops rest
  | [] => ⟨[], [], rfl, .done⟩
  | word :: rest => by
      by_cases known : IsKnown word
      · rcases known with asks | rfl | ⟨flag, rfl⟩
        · exact ⟨[], _, rfl, .help asks rest⟩
        · obtain ⟨settings, stop, rfl, stops⟩ := exists_settings rest
          exact ⟨.switch :: settings, stop, rfl, stops⟩
        · cases rest with
          | nil => exact ⟨[], _, rfl, .missing flag⟩
          | cons value rest =>
              obtain ⟨settings, stop, rfl, stops⟩ := exists_settings rest
              exact ⟨.given flag value :: settings, stop, rfl, stops⟩
      · exact ⟨[], _, rfl, .unknown known rest⟩

/-! ## What settings say -/

theorem getLast?_cons_or (value : String) (values : List String) (other : Option String) :
    (value :: values).getLast?.or other = values.getLast?.or (some value) := by
  rw [List.getLast?_cons]
  cases values.getLast? <;> rfl

/-- The last value of a flag counts, and of the flag that repeats all do. -/
theorem foldl_take (settings : List Setting) (flags : Flags) :
    settings.foldl Flags.take flags =
      { spec := (valuesOf .spec settings).getLast?.or flags.spec
        project := (valuesOf .project settings).getLast?.or flags.project
        assetsFallback := (valuesOf .assetsFallback settings).getLast?.or flags.assetsFallback
        prefer := flags.prefer ++ valuesOf .prefer settings
        json := settings.contains .switch || flags.json } := by
  induction settings generalizing flags with
  | nil => simp [valuesOf]
  | cons setting settings ih =>
      rw [List.foldl_cons, ih]
      cases setting with
      | given flag value =>
          cases flag <;>
            simp [Flags.take, valuesOf, Setting.valueOf?, getLast?_cons_or, List.append_assoc]
      | switch => simp [Flags.take, valuesOf, Setting.valueOf?]

/-- The command that settings ask for. -/
def commandOf (settings : List Setting) (usualProject : Option String) (spec : String) : Command :=
  { spec
    project := ((valuesOf .project settings).getLast?.or usualProject).getD "."
    assetsFallback := (valuesOf .assetsFallback settings).getLast?
    prefer := valuesOf .prefer settings
    json := settings.contains .switch }

/-- What arguments are answered with, by the settings at their beginning and by what stands behind
these. -/
inductive Answers (usualProject : Option String) :
    List String → Except ArgumentFault Request → Prop where
  | help (settings : List Setting) {word : String} (asks : word ∈ helpWords)
      (rest : List String) :
      Answers usualProject (wordsOf settings ++ word :: rest) (.ok .help)
  | unknown (settings : List Setting) {word : String} (unknown : ¬ IsKnown word)
      (rest : List String) :
      Answers usualProject (wordsOf settings ++ word :: rest) (.error (.unknown word))
  | missing (settings : List Setting) (flag : ValueFlag) :
      Answers usualProject (wordsOf settings ++ [flag.word]) (.error (.missingValue flag.word))
  | noSpec {settings : List Setting} (none : valuesOf .spec settings = []) :
      Answers usualProject (wordsOf settings) (.error .missingSpec)
  | compile {settings : List Setting} {spec : String}
      (last : (valuesOf .spec settings).getLast? = some spec) :
      Answers usualProject (wordsOf settings)
        (.ok (.compile (commandOf settings usualProject spec)))

section

variable {usualProject : Option String} {arguments : List String}

theorem read_of_answers {answer : Except ArgumentFault Request}
    (answers : Answers usualProject arguments answer) : read arguments usualProject = answer := by
  unfold read
  cases answers with
  | help settings asks rest => rw [readFlags_wordsOf, readFlags_help _ asks]
  | unknown settings unknown rest => rw [readFlags_wordsOf, readFlags_unknown _ unknown]
  | missing settings flag => rw [readFlags_wordsOf, readFlags_missing]
  | @noSpec settings none =>
      rw [← List.append_nil (wordsOf settings), readFlags_wordsOf, foldl_take, readFlags]
      simp [none, Flags.initial]
  | @compile settings spec last =>
      rw [← List.append_nil (wordsOf settings), readFlags_wordsOf, foldl_take, readFlags]
      simp [last, Flags.initial, commandOf]

/-- There is an answer to all arguments. -/
theorem answers_read (arguments : List String) (usualProject : Option String) :
    Answers usualProject arguments (read arguments usualProject) := by
  obtain ⟨answer, answers⟩ : ∃ answer, Answers usualProject arguments answer := by
    obtain ⟨settings, rest, rfl, stops⟩ := exists_settings arguments
    cases stops with
    | done =>
        rw [List.append_nil]
        cases last : (valuesOf .spec settings).getLast? with
        | none => exact ⟨_, .noSpec (List.getLast?_eq_none_iff.mp last)⟩
        | some spec => exact ⟨_, .compile last⟩
    | help asks rest => exact ⟨_, .help settings asks rest⟩
    | unknown unknown rest => exact ⟨_, .unknown settings unknown rest⟩
    | missing flag => exact ⟨_, .missing settings flag⟩
  rw [read_of_answers answers]
  exact answers

theorem answers_iff {answer : Except ArgumentFault Request} :
    read arguments usualProject = answer ↔ Answers usualProject arguments answer := by
  constructor
  · rintro rfl
    exact answers_read arguments usualProject
  · exact read_of_answers

end

/-! ## Flag positions -/

theorem inFlagPosition_switch_iff (settings : List Setting) :
    InFlagPosition (wordsOf settings) switchWord ↔ .switch ∈ settings := by
  constructor
  · rintro ⟨before, rest, same⟩
    obtain ⟨more, rfl, left⟩ := eq_append_of_wordsOf same
    cases more with
    | nil => simp at left
    | cons setting more =>
        cases setting with
        | given flag value =>
            exact absurd (List.cons.inj left).1.symm flag.word_ne_switchWord
        | switch => simp
  · intro member
    obtain ⟨before, behind, rfl⟩ := List.append_of_mem member
    exact ⟨before, wordsOf behind, by rw [wordsOf_append, wordsOf_switch]⟩

theorem inFlagPosition_flag_iff (settings : List Setting) (flag : ValueFlag) :
    InFlagPosition (wordsOf settings) flag.word ↔ valuesOf flag settings ≠ [] := by
  constructor
  · rintro ⟨before, rest, same⟩
    obtain ⟨more, rfl, left⟩ := eq_append_of_wordsOf same
    cases more with
    | nil => simp at left
    | cons setting more =>
        cases setting with
        | given other value =>
            have own : flag = other := ValueFlag.word_inj (List.cons.inj left).1
            simp [valuesOf, Setting.valueOf?, own]
        | switch => exact absurd (List.cons.inj left).1 flag.word_ne_switchWord
  · intro given
    obtain ⟨value, member⟩ := List.exists_mem_of_ne_nil _ given
    obtain ⟨setting, inside, own⟩ := List.mem_filterMap.mp member
    obtain ⟨before, behind, rfl⟩ := List.append_of_mem inside
    cases setting with
    | switch => cases own
    | given other value =>
        have same : other = flag := (Option.ite_none_right_eq_some.mp own).1
        subst same
        exact ⟨before, value :: wordsOf behind, by rw [wordsOf_append, wordsOf_given]⟩

/-- The words of settings are known where flags are expected. -/
theorem isKnown_of_inFlagPosition {settings : List Setting} {word : String}
    (there : InFlagPosition (wordsOf settings) word) : IsKnown word := by
  obtain ⟨before, rest, same⟩ := there
  obtain ⟨more, rfl, left⟩ := eq_append_of_wordsOf same
  cases more with
  | nil => simp at left
  | cons setting more =>
      cases setting with
      | given flag value => exact .inr (.inr ⟨flag, (List.cons.inj left).1⟩)
      | switch => exact .inr (.inl (List.cons.inj left).1)

theorem not_lacksValue (settings : List Setting) (flag : ValueFlag) :
    ¬ LacksValue (wordsOf settings) flag := by
  rintro ⟨before, same⟩
  obtain ⟨more, rfl, left⟩ := eq_append_of_wordsOf same
  cases more with
  | nil => simp at left
  | cons setting more =>
      cases setting with
      | given other value => simp at left
      | switch => exact flag.word_ne_switchWord (List.cons.inj left).1

/-! ## Requests -/

/-- What arguments are refused for. -/
def Explains (arguments : List String) : ArgumentFault → Prop
  | .unknown word => ¬ IsKnown word ∧ InFlagPosition arguments word
  | .missingValue word => ∃ flag : ValueFlag, word = flag.word ∧ LacksValue arguments flag
  | .missingSpec => ∃ settings, arguments = wordsOf settings ∧ valuesOf .spec settings = []

/-- That a command is what settings say. -/
structure Says (settings : List Setting) (usualProject : Option String) (command : Command) :
    Prop where
  spec : (valuesOf .spec settings).getLast? = some command.spec
  project : command.project = ((valuesOf .project settings).getLast?.or usualProject).getD "."
  assetsFallback : command.assetsFallback = (valuesOf .assetsFallback settings).getLast?
  prefer : command.prefer = valuesOf .prefer settings
  json : command.json = true ↔ InFlagPosition (wordsOf settings) switchWord

theorem says_iff {settings : List Setting} {usualProject : Option String} {command : Command} :
    Says settings usualProject command ↔
      ∃ spec, (valuesOf .spec settings).getLast? = some spec ∧
        command = commandOf settings usualProject spec := by
  constructor
  · rintro ⟨spec, project, assetsFallback, prefer, json⟩
    refine ⟨command.spec, spec, ?_⟩
    have switched : command.json = settings.contains .switch := by
      rw [Bool.eq_iff_iff, json, inFlagPosition_switch_iff, List.contains_iff_mem]
    unfold commandOf
    rw [← project, ← assetsFallback, ← prefer, ← switched]
  · rintro ⟨spec, last, rfl⟩
    refine ⟨last, rfl, rfl, rfl, ?_⟩
    rw [inFlagPosition_switch_iff, ← List.contains_iff_mem]
    rfl

section

variable (arguments : List String) (usualProject : Option String)

theorem read_eq_help_iff :
    read arguments usualProject = .ok .help ↔
      ∃ word ∈ helpWords, InFlagPosition arguments word := by
  rw [answers_iff]
  constructor
  · intro answers
    cases answers with
    | help settings asks rest => exact ⟨_, asks, settings, rest, rfl⟩
  · rintro ⟨word, asks, settings, rest, rfl⟩
    exact .help settings asks rest

theorem read_eq_error_iff (fault : ArgumentFault) :
    read arguments usualProject = .error fault ↔ Explains arguments fault := by
  rw [answers_iff]
  constructor
  · intro answers
    cases answers with
    | unknown settings unknown rest => exact ⟨unknown, settings, rest, rfl⟩
    | missing settings flag => exact ⟨flag, rfl, settings, rfl⟩
    | @noSpec settings none => exact ⟨settings, rfl, none⟩
  · intro explains
    cases fault with
    | unknown word =>
        obtain ⟨unknown, settings, rest, rfl⟩ := explains
        exact .unknown settings unknown rest
    | missingValue word =>
        obtain ⟨flag, rfl, settings, rfl⟩ := explains
        exact .missing settings flag
    | missingSpec =>
        obtain ⟨settings, rfl, none⟩ := explains
        exact .noSpec none

theorem read_eq_compile_iff (command : Command) :
    read arguments usualProject = .ok (.compile command) ↔
      ∃ settings, arguments = wordsOf settings ∧ Says settings usualProject command := by
  rw [answers_iff]
  simp only [says_iff]
  constructor
  · intro answers
    cases answers with
    | @compile settings spec last => exact ⟨settings, rfl, spec, last, rfl⟩
  · rintro ⟨settings, rfl, spec, last, rfl⟩
    exact .compile last

/-- Arguments that do not ask for help are refused for one of three reasons. -/
theorem exists_error_iff :
    (∃ fault, read arguments usualProject = .error fault) ↔
      (¬ ∃ word ∈ helpWords, InFlagPosition arguments word) ∧
        ((∃ word, ¬ IsKnown word ∧ InFlagPosition arguments word) ∨
          (∃ flag, LacksValue arguments flag) ∨
          ¬ InFlagPosition arguments ValueFlag.spec.word) := by
  rw [← read_eq_help_iff arguments usualProject]
  constructor
  · rintro ⟨fault, failed⟩
    refine ⟨by rw [failed]; simp, ?_⟩
    cases answers_iff.mp failed with
    | unknown settings unknown rest => exact .inl ⟨_, unknown, settings, rest, rfl⟩
    | missing settings flag => exact .inr (.inl ⟨flag, settings, rfl⟩)
    | @noSpec settings none =>
        exact .inr (.inr fun given => (inFlagPosition_flag_iff settings .spec).mp given none)
  · rintro ⟨noHelp, reasons⟩
    have answers := answers_read arguments usualProject
    generalize read arguments usualProject = answer at answers noHelp
    cases answers with
    | help => exact absurd rfl noHelp
    | unknown => exact ⟨_, rfl⟩
    | missing => exact ⟨_, rfl⟩
    | noSpec => exact ⟨_, rfl⟩
    | @compile settings spec last =>
        rcases reasons with ⟨word, unknown, there⟩ | ⟨flag, lacks⟩ | absent
        · exact absurd (isKnown_of_inFlagPosition there) unknown
        · exact absurd lacks (not_lacksValue settings flag)
        · refine absurd ((inFlagPosition_flag_iff settings .spec).mpr ?_) absent
          intro none
          simp [none] at last

/-- Arguments ask for help exactly when a word does where a flag is expected; they are refused
exactly when such a word is unknown, the last argument lacks its value or no document is given, and
the fault says which; and all others are settings, of which the command says the last values, all
preferences in order, and whether the switch stands where a flag is expected. -/
theorem read_settings :
    (read arguments usualProject = .ok .help ↔
      ∃ word ∈ helpWords, InFlagPosition arguments word) ∧
    ((∃ fault, read arguments usualProject = .error fault) ↔
      (¬ ∃ word ∈ helpWords, InFlagPosition arguments word) ∧
        ((∃ word, ¬ IsKnown word ∧ InFlagPosition arguments word) ∨
          (∃ flag, LacksValue arguments flag) ∨
          ¬ InFlagPosition arguments ValueFlag.spec.word)) ∧
    (∀ fault, read arguments usualProject = .error fault ↔ Explains arguments fault) ∧
    ∀ command, read arguments usualProject = .ok (.compile command) ↔
      ∃ settings, arguments = wordsOf settings ∧ Says settings usualProject command :=
  ⟨read_eq_help_iff arguments usualProject, exists_error_iff arguments usualProject,
    read_eq_error_iff arguments usualProject, read_eq_compile_iff arguments usualProject⟩

end

/-- A value may look like a flag, and a word that asks for help is a value where one is expected. -/
example : read ["--prefer", "--json", "--spec", "a", "--spec", "--help"] none =
    .ok (.compile ⟨"--help", ".", none, ["--json"], false⟩) := by rfl

end GameScenes.CommandLine
