import AeadEnvelope.Command.Options

/-!
# Settings

A setting is an argument that stands for an option, together with the argument behind it, which is
the value. Main statement: arguments are read as options exactly if they are those of known
settings, and each option then has the value of its last setting (`Options.parse_eq_ok_iff`).
-/
namespace AeadEnvelope.Command

/-- Arguments in pairs, each of one that stands for an option and the value behind it. -/
abbrev Settings := List (String × String)

namespace Settings

/-- The arguments one after the other. -/
def arguments (settings : Settings) : List String :=
  settings.flatMap fun setting => [setting.1, setting.2]

/-- Whether the first argument of every pair stands for an option. -/
def Known (settings : Settings) : Prop :=
  ∀ setting ∈ settings, (OptionName.ofArgument? setting.1).isSome = true

/-- The settings of one option. -/
def of (settings : Settings) (name : OptionName) : Settings :=
  settings.filter fun setting => OptionName.ofArgument? setting.1 = some name

/-- The value in the last setting of an option. -/
def last (settings : Settings) (name : OptionName) : Option String :=
  (settings.of name).getLast?.map Prod.snd

/-- The options with those that are set in place of what was known of them. -/
def onto (settings : Settings) (start : Options) : Options where
  context := (settings.last .context).or start.context
  input := (settings.last .input).or start.input
  output := (settings.last .output).or start.output

/-- The options that are set. -/
def options (settings : Settings) : Options where
  context := settings.last .context
  input := settings.last .input
  output := settings.last .output

/-- A setting is the last one of its option unless that is set again. -/
theorem last_cons (setting : String × String) (later : Settings) (name : OptionName) :
    last (setting :: later) name = (last later name).or
      (if OptionName.ofArgument? setting.1 = some name then some setting.2 else none) := by
  simp only [last, of, List.filter_cons, decide_eq_true_eq]
  split
  · rw [List.getLast?_cons, ← of]
    cases (of later name).getLast? <;> rfl
  · rw [Option.or_none]

/-- Later settings go over an earlier one. -/
theorem onto_cons {setting : String × String} {name : OptionName}
    (named : OptionName.ofArgument? setting.1 = some name) (later : Settings) (start : Options) :
    onto (setting :: later) start = onto later (start.set name setting.2) := by
  simp only [onto, last_cons, named, Option.some.injEq]
  cases name <;> simp [Options.set]

/-- Nothing but the settings counts where no option was given before. -/
theorem onto_unset (settings : Settings) : settings.onto .unset = settings.options := by
  simp [onto, options, Options.unset]

end Settings

namespace Options

/-- The arguments of known settings are read, and the settings go over the options before them. -/
theorem parseAfter_arguments {settings : Settings} (known : settings.Known) (start : Options) :
    parseAfter start settings.arguments = .ok (settings.onto start) := by
  induction settings generalizing start with
  | nil => rfl
  | cons setting later step =>
    obtain ⟨here, rest⟩ := List.forall_mem_cons.mp known
    obtain ⟨name, named⟩ := Option.isSome_iff_exists.mp here
    have split : Settings.arguments (setting :: later) =
      setting.1 :: setting.2 :: Settings.arguments later := rfl
    rw [split, parseAfter, named, Settings.onto_cons named]
    exact step rest (start.set name setting.2)

/-- Arguments that are read are those of known settings. -/
theorem exists_arguments_eq {start options : Options} {arguments : List String}
    (read : parseAfter start arguments = .ok options) :
    ∃ settings : Settings, settings.Known ∧ settings.arguments = arguments := by
  fun_induction parseAfter start arguments with
  | case1 start => exact ⟨[], nofun, rfl⟩
  | case2 => cases read
  | case3 => cases read
  | case4 => cases read
  | case5 start argument value later name named step =>
    obtain ⟨settings, known, rfl⟩ := step read
    have here : (OptionName.ofArgument? argument).isSome = true := named ▸ rfl
    exact ⟨(argument, value) :: settings, List.forall_mem_cons.mpr ⟨here, known⟩, rfl⟩

/-- Arguments are read exactly if they are those of known settings, and each option then has the
value of its last setting. -/
theorem parse_eq_ok_iff {arguments : List String} {options : Options} :
    parse arguments = .ok options ↔
      ∃ settings : Settings, settings.Known ∧ settings.arguments = arguments ∧
        settings.options = options := by
  have read : ∀ settings : Settings, settings.Known →
      parse settings.arguments = .ok settings.options := by
    intro settings known
    rw [parse, parseAfter_arguments known, Settings.onto_unset]
  constructor
  · intro done
    obtain ⟨settings, known, rfl⟩ := exists_arguments_eq done
    exact ⟨settings, known, rfl, Except.ok.inj ((read settings known).symm.trans done)⟩
  · rintro ⟨settings, known, rfl, rfl⟩
    exact read settings known

/-- A value is taken as it stands, and the last setting of an option counts. -/
example : parse ["-c", "--output", "-o", "a", "--output", "b"] =
    .ok ⟨some "--output", none, some "b"⟩ := rfl

end Options

end AeadEnvelope.Command
