import PciInventory.Proofs.Settings.PathList
import PciInventory.Proofs.Text.UpperCase

/-!
# Settings and the variables they come from

Each of the four settings comes from one variable. A path setting is what its variable says, and the
default where the variable says nothing, that is, where it is unset or empty. The log level is the
default one only where its variable is unset; all other texts are upper-cased and have to be the
name of a level then, which the empty text is not. So the settings cannot be loaded under an empty
log level, and leaving out the empty variables does not bear on them in any other case.

Upper-casing lets in a few spellings of a level that are not its name in letters of either case.
They are told here letter by letter.
-/
namespace PciInventory

namespace LogLevel

theorem isCapital_of_mem_name (level : LogLevel) : ∀ d ∈ level.name, Text.Case.IsCapital d := by
  have all : level.name.all (fun d => decide (Text.Case.IsCapital d)) = true := by
    cases level <;> decide
  exact fun d hd => of_decide_eq_true (List.all_eq_true.1 all d hd)

/-- No character becomes several that stand one after another in the name of a level. -/
theorem not_infix_name (level : LogLevel) : ∀ entry ∈ Text.Case.upperExpansions,
    ¬ entry.2.map Char.ofNat <:+: level.name := by
  cases level <;> decide +kernel

/-- The texts whose upper case is the name of a level spell it letter by letter. -/
theorem upper_eq_name_iff {t : Text} {level : LogLevel} :
    Text.upper t = level.name ↔ List.Forall₂ Text.Case.Raises t level.name :=
  Text.upper_eq_iff level.isCapital_of_mem_name level.not_infix_name

theorem ofName?_eq_none_iff {t : Text} : ofName? t = none ↔ ∀ level : LogLevel, t ≠ level.name := by
  rw [Option.eq_none_iff_forall_ne_some]
  exact forall_congr' fun _ => not_congr ofName?_eq_some_iff

theorem name_injective {a b : LogLevel} (h : a.name = b.name) : a = b := by
  have named : ofName? b.name = some a := ofName?_eq_some_iff.2 h.symm
  rw [ofName?_eq_some_iff.2 rfl] at named
  exact (Option.some.inj named).symm

end LogLevel

namespace Settings

/-- What is read from the value of a variable, or the default if it is unset or empty. -/
def chosen {α : Type} (read : Text → α) (default : α) : Option Text → α
  | none => default
  | some [] => default
  | some (c :: rest) => read (c :: rest)

/-- The log level that an environment asks for, in its own letters. -/
def levelSaid (env : Environment) : Text :=
  (env.get? logLevelVariable).getD "WARNING".toList

/-- The environment without the variables that are empty. -/
def withoutEmpty (env : Environment) : Environment :=
  env.eraseWhere fun name => decide (env.get? name = some [])

section Loading
variable {env : Environment} {s : Settings}

theorem getD_map_filled? {α : Type} (read : Text → α) (default : α) (name : Text) :
    ((filled? env name).map read).getD default = chosen read default (env.get? name) := by
  unfold filled?
  rcases env.get? name with _ | _ | ⟨c, rest⟩ <;> rfl

theorem getD_filled? (default name : Text) :
    (filled? env name).getD default = chosen id default (env.get? name) := by
  rw [← getD_map_filled?, Option.map_id_fun, id]

/-- Loading fails with the upper-cased log level, where that is no name of a level. -/
theorem load_eq_error_iff {e : ConfigError} : load env = .error e ↔
    e = .logLevel (Text.upper (levelSaid env)) ∧
      ∀ level : LogLevel, Text.upper (levelSaid env) ≠ level.name := by
  have said : levelText env = Text.upper (levelSaid env) := rfl
  rw [← LogLevel.ofName?_eq_none_iff, load, said]
  cases LogLevel.ofName? (Text.upper (levelSaid env)) with
  | none => simp [eq_comm]
  | some level => simp

theorem load_eq_ok_iff : load env = .ok s ↔
    s.logLevel.name = Text.upper (levelSaid env) ∧
    s.databasePaths = chosen paths defaults.databasePaths (env.get? databaseVariable) ∧
    s.deviceRoot = chosen id defaults.deviceRoot (env.get? deviceVariable) ∧
    s.modulePath = chosen id defaults.modulePath (env.get? moduleVariable) := by
  have said : levelText env = Text.upper (levelSaid env) := rfl
  rw [eq_comm (a := s.logLevel.name), ← LogLevel.ofName?_eq_some_iff, load, said,
    getD_map_filled?, getD_filled?, getD_filled?]
  cases LogLevel.ofName? (Text.upper (levelSaid env)) with
  | none => simp
  | some level =>
    obtain ⟨databases, devices, modules, weight⟩ := s
    simp only [Except.ok.injEq, Settings.mk.injEq, Option.some.injEq]
    constructor
    · rintro ⟨rfl, rfl, rfl, rfl⟩
      exact ⟨rfl, rfl, rfl, rfl⟩
    · rintro ⟨rfl, rfl, rfl, rfl⟩
      exact ⟨rfl, rfl, rfl, rfl⟩

/-- Under the name of a level the settings load, whatever else the environment says. -/
theorem exists_load_of_level {level : LogLevel} (said : Text.upper (levelSaid env) = level.name) :
    ∃ s, load env = .ok s ∧ s.logLevel = level :=
  ⟨⟨_, _, _, level⟩, load_eq_ok_iff.2 ⟨said.symm, rfl, rfl, rfl⟩, rfl⟩

/-- The settings load exactly if the log level is spelled like one of the levels: in capital or
small letters, with a dotless small i for an i or a long s for an s. -/
theorem exists_load_iff : (∃ s, load env = .ok s) ↔
    ∃ level : LogLevel, List.Forall₂ Text.Case.Raises (levelSaid env) level.name := by
  simp only [← LogLevel.upper_eq_name_iff]
  constructor
  · rintro ⟨s, loads⟩
    exact ⟨s.logLevel, (load_eq_ok_iff.1 loads).1.symm⟩
  · rintro ⟨level, said⟩
    obtain ⟨s, loads, -⟩ := exists_load_of_level said
    exact ⟨s, loads⟩

/-- A variable that is empty is unset after the empty ones are left out; the others stay. -/
theorem get?_withoutEmpty (env : Environment) (name : Text) :
    (withoutEmpty env).get? name = filled? env name := by
  rw [withoutEmpty, Table.get?_eraseWhere, filled?]
  rcases env.get? name with _ | _ | ⟨c, rest⟩ <;> rfl

theorem chosen_filled? {α : Type} (read : Text → α) (default : α) (name : Text) :
    chosen read default (filled? env name) = chosen read default (env.get? name) := by
  unfold filled?
  rcases env.get? name with _ | _ | ⟨c, rest⟩ <;> rfl

theorem chosen_some {α : Type} {read : Text → α} {default : α} {v : Text} (filled : v ≠ []) :
    chosen read default (some v) = read v := by
  obtain ⟨c, rest, rfl⟩ := List.exists_cons_of_ne_nil filled
  rfl

theorem load_of_empty_level (empty : env.get? logLevelVariable = some []) :
    load env = .error (.logLevel []) := by
  have said : levelSaid env = [] := by rw [levelSaid, empty, Option.getD_some]
  rw [load_eq_error_iff, said]
  refine ⟨rfl, fun level => ?_⟩
  cases level <;> decide

theorem load_of_unset_level (unset : env.get? logLevelVariable = none) :
    ∃ s, load env = .ok s ∧ s.logLevel = defaults.logLevel := by
  have said : levelSaid env = "WARNING".toList := by rw [levelSaid, unset, Option.getD_none]
  have kept : Text.upper "WARNING".toList = defaults.logLevel.name := by decide +kernel
  exact exists_load_of_level (said ▸ kept)

/-- Of the variables that are empty only the log level is not as if it were unset. -/
theorem load_withoutEmpty_of_level (filled : env.get? logLevelVariable ≠ some []) :
    load (withoutEmpty env) = load env := by
  have said : levelSaid (withoutEmpty env) = levelSaid env := by
    rw [levelSaid, levelSaid, get?_withoutEmpty, filled?]
    rcases value : env.get? logLevelVariable with _ | _ | ⟨c, rest⟩
    · rfl
    · exact absurd value filled
    · rfl
  cases loads : load env with
  | error e => rwa [load_eq_error_iff, said, ← load_eq_error_iff]
  | ok s =>
    rw [load_eq_ok_iff, said]
    simp only [get?_withoutEmpty, chosen_filled?]
    exact load_eq_ok_iff.1 loads

end Loading

/-- Leaving out the empty variables makes no difference exactly if the log level is not one of them.
If it is, loading fails with it and succeeds without it, at the default level. -/
theorem load_withoutEmpty_eq_iff (env : Environment) :
    (load (withoutEmpty env) = load env ↔ env.get? logLevelVariable ≠ some []) ∧
    (env.get? logLevelVariable = some [] → load env = .error (.logLevel []) ∧
      ∃ s, load (withoutEmpty env) = .ok s ∧ s.logLevel = defaults.logLevel) := by
  have apart (empty : env.get? logLevelVariable = some []) : load env = .error (.logLevel []) ∧
      ∃ s, load (withoutEmpty env) = .ok s ∧ s.logLevel = defaults.logLevel := by
    refine ⟨load_of_empty_level empty, load_of_unset_level ?_⟩
    rw [get?_withoutEmpty, filled?, empty]
    rfl
  refine ⟨⟨fun same empty => ?_, load_withoutEmpty_of_level⟩, apart⟩
  obtain ⟨fails, s, loads, -⟩ := apart empty
  rw [fails, loads] at same
  cases same

/-- Empty path variables are as good as unset ones. -/
theorem load_withoutEmpty_eq_iff_paths :
    let env : Environment := Table.ofRows [(databaseVariable, []), (deviceVariable, []),
      (moduleVariable, "/tmp/modules".toList), (logLevelVariable, "debug".toList)]
    load (withoutEmpty env) = load env ∧
      load env = .ok { defaults with modulePath := "/tmp/modules".toList, logLevel := .debug } := by
  intro env
  exact ⟨(load_withoutEmpty_eq_iff env).1.2 (by decide +kernel), by decide +kernel⟩

/-- An empty log level is not as good as an unset one. -/
theorem load_withoutEmpty_ne :
    let env : Environment := Table.ofRows [(logLevelVariable, [])]
    load (withoutEmpty env) = .ok defaults ∧ load env = .error (.logLevel []) ∧
      load (withoutEmpty env) ≠ load env := by
  decide +kernel

/-- Settings are read variable by variable. Loading fails exactly if the log level in capitals is no
name of a level, and succeeds exactly if it spells one. Then the level has that name, the paths of
the databases are what stands between the colons of their variable, and the other two settings are
what their variables say. So a list of paths comes back from any text that lists them, and a text
that is not empty lists the paths that come from it. -/
theorem load_by_variable (env : Environment) :
    ((∃ e, load env = .error e) ↔
      ∀ level : LogLevel, Text.upper (levelSaid env) ≠ level.name) ∧
    ((∃ s, load env = .ok s) ↔
      ∃ level : LogLevel, List.Forall₂ Text.Case.Raises (levelSaid env) level.name) ∧
    (∀ s, load env = .ok s →
      s.logLevel.name = Text.upper (levelSaid env) ∧
      s.databasePaths = chosen (fun v => (v.splitOn ':').filter (!·.isEmpty))
        defaults.databasePaths (env.get? databaseVariable) ∧
      s.deviceRoot = chosen id defaults.deviceRoot (env.get? deviceVariable) ∧
      s.modulePath = chosen id defaults.modulePath (env.get? moduleVariable)) ∧
    ∀ s, load env = .ok s → ∀ v, env.get? databaseVariable = some v →
      (∀ ps, ps ≠ [] → IsListing ps v → s.databasePaths = ps) ∧
      (v ≠ [] → IsListing s.databasePaths v) := by
  refine ⟨?_, exists_load_iff, fun s loads => load_eq_ok_iff.1 loads, ?_⟩
  · simp only [load_eq_error_iff]
    exact ⟨fun ⟨_, _, unnamed⟩ => unnamed, fun unnamed => ⟨_, rfl, unnamed⟩⟩
  · intro s loads v value
    have found (filled : v ≠ []) : paths v = s.databasePaths := by
      obtain ⟨-, databases, -⟩ := load_eq_ok_iff.1 loads
      rw [databases, value, chosen_some filled]
    refine ⟨fun ps some listing => ?_, fun filled => paths_eq_iff.1 (found filled)⟩
    have filled : v ≠ [] := by
      rintro rfl
      exact some listing.paths_eq.symm
    rw [← found filled, listing.paths_eq]

/-- Two paths with stray colons around them, and a level with a dotless small i in its name. -/
theorem load_by_variable_stray :
    let env : Environment := Table.ofRows [(logLevelVariable, "warnıng".toList),
      (databaseVariable, ":/a::/b:".toList), (deviceVariable, "/tmp/sys".toList)]
    ∃ s, load env = .ok s ∧ s.logLevel = .warning ∧
      s.databasePaths = ["/a".toList, "/b".toList] ∧ s.deviceRoot = "/tmp/sys".toList ∧
      s.modulePath = defaults.modulePath := by
  intro env
  obtain ⟨failing, -, reads, lists⟩ := load_by_variable env
  cases loads : load env with
  | error e =>
    exact absurd (by decide +kernel) (failing.1 ⟨e, loads⟩ .warning)
  | ok s =>
    obtain ⟨level, -, devices, modules⟩ := reads s loads
    have listing : IsListing ["/a".toList, "/b".toList] ":/a::/b:".toList :=
      .next 1 ⟨by decide, by decide⟩ (.next 1 ⟨by decide, by decide⟩ (.nothing 0))
    refine ⟨s, rfl, LogLevel.name_injective ?_, ?_, ?_, ?_⟩
    · rw [level]
      decide +kernel
    · exact (lists s loads _ (by decide +kernel)).1 _ (by decide) listing
    · rw [devices]
      decide +kernel
    · rw [modules]
      decide +kernel

end Settings

end PciInventory
