import PciInventory.Proofs.CommandLine.Console

/-!
# What a scan prints where

A scan that reports in JSON and saves nothing prints either one array of observations on standard
output and ends well, or nothing there and ends with a code, and what it reports of the failure is a
JSON object on standard error. This holds from the names of the collectors on. The two checks before
them, of the settings and of the platform, print their messages on standard output in every format.
How those are laid out is up to the console.

Nothing is said here of which scans end well.
-/
namespace PciInventory

/-- An outcome whose standard output has observations as JSON and nothing else: all of them, if the
command ended well, and otherwise none. A failure that is reported is a JSON object on standard
error, and one that escapes has nothing printed of it. -/
def Outcome.KeepsToJson (o : Outcome) : Prop :=
  o.tables = [] ∧
  ((∃ os, o.exitCode = 0 ∧ o.escaped = none ∧ o.stderr = [] ∧
      o.stdout = (Payload.ofObservations os).indented ++ ['\n']) ∨
    (o.exitCode ≠ 0 ∧ o.stdout = [] ∧
      ((∃ r : Report, o.escaped = none ∧ o.stderr = r.toJson.compact ++ ['\n']) ∨
        (o.escaped ≠ none ∧ o.stderr = []))))

/-- An outcome that nothing was printed in yet. -/
structure Outcome.IsSilent (o : Outcome) : Prop where
  exitCode : o.exitCode = 0
  stdout : o.stdout = []
  stderr : o.stderr = []
  tables : o.tables = []
  escaped : o.escaped = none

namespace Outcome
variable {o : Outcome}

/-- A message after which a command ends with a code. If it cannot be printed the code is 1. -/
theorem message_exit (C : Console) (o : Outcome) (t : Text) (code : Nat) :
    o.message C t (·.exit code) =
    match C.message t with
    | (printed, none) => { o with stdout := o.stdout ++ printed, exitCode := code }
    | (printed, some e) =>
      { o with stdout := o.stdout ++ printed, exitCode := 1, escaped := some e } := by
  unfold message
  split
  · rename_i printed
    rw [printed]
    rfl
  · rename_i e printed
    rw [printed]
    rfl

theorem isSilent_start (tree : FileTree) : (start tree).IsSilent := ⟨rfl, rfl, rfl, rfl, rfl⟩

theorem IsSilent.log (h : o.IsSilent) (level : LogLevel) (ns : List Notice) :
    (o.log level ns).IsSilent :=
  ⟨h.exitCode, h.stdout, h.stderr, h.tables, h.escaped⟩

theorem IsSilent.keepsToJson_escape (h : o.IsSilent) (e : Failure) : (o.escape e).KeepsToJson :=
  ⟨h.tables, .inr ⟨Nat.one_ne_zero, h.stdout, .inr ⟨Option.some_ne_none e, h.stderr⟩⟩⟩

end Outcome

namespace Scan
variable {C : Console} {o : Outcome}

theorem keepsToJson_fail (sound : C.IsSound) (h : o.IsSilent) {code : Nat} (failed : code ≠ 0)
    (front : Text) (r : Report) : (fail C o .json code front r).KeepsToJson := by
  refine ⟨h.tables, .inr ⟨failed, h.stdout, .inl ⟨r, h.escaped, ?_⟩⟩⟩
  change o.stderr ++ C.line r.toJson.compact = _
  rw [h.stderr, List.nil_append, sound.line_of_isVisible r.isVisible_compact_toJson]

theorem keepsToJson_report (sound : C.IsSound) (h : o.IsSilent) (os : List Observation) :
    (report C o .json none os).KeepsToJson := by
  refine ⟨h.tables, .inl ⟨os, h.exitCode, h.escaped, h.stderr, ?_⟩⟩
  change o.stdout ++ C.line (Payload.text os) = _
  rw [h.stdout, List.nil_append, sound.line_of_isVisible (Payload.isVisible_text os)]
  rfl

theorem keepsToJson_collect (sound : C.IsSound) (h : o.IsSilent) (settings : Settings)
    (level : LogLevel) {r : ScanRequest} (unsaved : r.out = none) :
    (collect C o settings level .json r).KeepsToJson := by
  have built := h.log level (Collector.buildAll o.tree settings r.collectors).notices
  simp only [collect]
  generalize o.log level (Collector.buildAll o.tree settings r.collectors).notices = o' at built
  split
  · exact keepsToJson_fail sound built Nat.one_ne_zero _ _
  · exact built.keepsToJson_escape _
  · rename_i cs _
    have polled := built.log level (pollAll o'.tree cs).1
    generalize o'.log level (pollAll o'.tree cs).1 = o'' at polled
    split
    · exact keepsToJson_fail sound polled (by decide) _ _
    · exact polled.keepsToJson_escape _
    · rw [unsaved]
      exact keepsToJson_report sound polled _

theorem run_of_error (C : Console) {s : Surroundings} {r : ScanRequest} {e : ConfigError}
    (h : Settings.load s.environment = .error e) :
    run C s r = (Outcome.start s.tree).message C (Markup.alert e.report.text) (·.exit 1) := by
  simp only [run, h]

theorem run_of_ok (C : Console) {s : Surroundings} {r : ScanRequest} {settings : Settings}
    (h : Settings.load s.environment = .ok settings) :
    run C s r = check C (Outcome.start s.tree) s.platform settings r := by
  simp only [run, h]

/-- A scan that reports in JSON and saves nothing keeps to JSON if the settings can be loaded and
the platform is one on which there can be devices. If not, it prints its message on standard output,
as the console prints messages. -/
theorem run_json {C : Console} (sound : C.IsSound) (s : Surroundings) (collectors : List Text)
    (verbose : Bool) :
    let o := run C s ⟨collectors, "json".toList, none, verbose⟩
    match Settings.load s.environment with
    | .error e =>
      o.exitCode = 1 ∧ o.stdout = (C.message (Markup.alert e.report.text)).1 ∧ o.stderr = []
    | .ok settings =>
      if s.platform ≠ homePlatform ∧ settings.deviceRoot = Settings.defaultDeviceRoot then
        o.exitCode = 2 ∧ o.stdout = (C.message foreignPlatform).1 ∧ o.stderr = []
      else o.KeepsToJson := by
  intro o
  cases loaded : Settings.load s.environment with
  | error e =>
    have ran : o = _ := (run_of_error C loaded).trans (Outcome.message_exit C _ _ 1)
    change o.exitCode = 1 ∧ o.stdout = (C.message (Markup.alert e.report.text)).1 ∧ o.stderr = []
    rw [ran]
    obtain ⟨printed, fault⟩ := C.message (Markup.alert e.report.text)
    cases fault with
    | none => exact ⟨rfl, rfl, rfl⟩
    | some fault => exact ⟨rfl, rfl, rfl⟩
  | ok settings =>
    have ran : o = _ := run_of_ok C loaded
    rw [ran]
    simp only [check]
    split
    · have told := message_foreignPlatform sound
      rw [Outcome.message_exit]
      generalize C.message foreignPlatform = said at told
      obtain ⟨printed, fault⟩ := said
      obtain rfl : fault = none := told
      exact ⟨rfl, rfl, rfl⟩
    · exact keepsToJson_collect sound (Outcome.isSilent_start s.tree) settings _ rfl

/-- On another platform a scan in JSON prints a sentence on the plain console, and no JSON. -/
theorem run_json_foreign :
    let o := run .plain ⟨.ofRows [], .empty [], "Darwin".toList⟩
      ⟨["pcie".toList], "json".toList, none, false⟩
    o.exitCode = 2 ∧ o.stderr = [] ∧ o.stdout =
      "Non-Linux OS detected; point PCISCOPE_SYSFS_PCI at a sysfs tree.\n".toList := by
  have ran := run_json Console.isSound_plain ⟨.ofRows [], .empty [], "Darwin".toList⟩
    ["pcie".toList] false
  have loaded : Settings.load (.ofRows []) = .ok Settings.defaults := by decide +kernel
  rw [loaded] at ran
  obtain ⟨code, printed, silent⟩ := (if_pos (by decide +kernel)).mp ran
  refine ⟨code, silent, printed.trans ?_⟩
  decide +kernel

/-- A scan in JSON whose settings cannot be loaded has something else than observations on standard
output, and nothing on standard error. -/
theorem run_json_chatty :
    let o := run .plain ⟨.ofRows [(logLevelVariable, "chatty".toList)], .empty [], homePlatform⟩
      ⟨["pcie".toList], "json".toList, none, false⟩
    o.stderr = [] ∧ o.stdout ≠ [] ∧
      ∀ os, o.stdout ≠ (Payload.ofObservations os).indented ++ ['\n'] := by
  intro o
  have printed : o.stderr = [] ∧ o.stdout =
      "invalid log level: 'CHATTY' (variable='PCISCOPE_LOG_LEVEL')\n".toList := by decide +kernel
  refine ⟨printed.1, by rw [printed.2]; decide, fun os h => ?_⟩
  rw [printed.2] at h
  cases os with
  | nil => exact absurd h (by decide)
  | cons first rest =>
    refine absurd (congrArg List.head? h) ?_
    simp [Payload.ofObservations, Json.indented, Json.print]

end Scan

end PciInventory
