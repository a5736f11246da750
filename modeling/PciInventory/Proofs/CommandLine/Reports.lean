import PciInventory.Proofs.CommandLine.Checks
import PciInventory.Proofs.Json.Reading
import PciInventory.Proofs.Number.ReadingBack
import PciInventory.Proofs.Sink.Values

/-!
# What a scan reports in JSON

A scan that ends well has polled all its collectors into one sink. Its JSON is an object for each
observation in the sink, in the order in which they came, and loses nothing of them: the text is in
the JSON format and is read back as the same names, the same labels in the same order and the same
number texts, from which the values are read back. No observation has two labels of one name, so no
label is dropped where the labels become an object, and no value is missing or infinite, so every
number is one that JSON has.

Nothing is said here of the table that a scan may show instead.
-/
namespace PciInventory

/-- An observation as JSON: every label in its place, and the value by the text from which the number
can be read back. -/
def Observation.toJson (o : Observation) : Json :=
  .object [("name".toList, .text o.name),
    ("labels".toList, .object (o.labels.map fun label => (label.1, .text label.2))),
    ("value".toList, .number o.value.text)]

/-- The words for values that are no finite numbers are no numbers of the format. -/
theorem Json.IsNumber.not_mem_words {token : Text} (h : Json.IsNumber token) :
    token ∉ ["NaN".toList, "Infinity".toList, "-Infinity".toList] := by
  have unsigned {c : Char} {rest : Text} (other : ¬ ('0' ≤ c ∧ c ≤ '9')) :
      ¬ Json.IsUnsigned (c :: rest) := by
    intro number
    obtain ⟨_, _, ⟨⟩, digit⟩ := number.exists_cons
    exact other digit
  intro word
  simp only [List.mem_cons, List.not_mem_nil, or_false] at word
  rcases word with rfl | rfl | rfl
  · cases h with
    | plain number => exact unsigned (by decide) number
  · cases h with
    | plain number => exact unsigned (by decide) number
  · cases h with
    | plain number => exact unsigned (by decide) number
    | negative number => exact unsigned (by decide) number

namespace Payload
variable {os : List Observation}

theorem numberToken_of_isFinite {x : Binary64} (h : x.isFinite = true) : numberToken x = x.text := by
  cases x with
  | finite negative m e => rfl
  | infinite negative => cases h
  | notANumber => cases h

theorem ofObservations_eq (proper : ∀ o ∈ os, o.IsProper) :
    ofObservations os = .array (os.map Observation.toJson) := by
  refine congrArg Json.array (List.map_congr_left fun o ho => ?_)
  rw [ofObservation, ofLabels, Table.rows_ofRows (proper o ho).nodup,
    numberToken_of_isFinite (proper o ho).inRange.finite, Observation.toJson]

theorem isNumber_numberToken {x : Binary64} (h : x.isFinite = true) :
    Json.IsNumber (numberToken x) := by
  rw [numberToken_of_isFinite h]
  exact Binary64.isNumber_text h

theorem writes_text (proper : ∀ o ∈ os, o.IsProper) :
    Json.Writes (text os) (.array (os.map Observation.toJson)) := by
  rw [← ofObservations_eq proper]
  exact Json.writes_indented (eachNumber_ofObservations fun o ho =>
    isNumber_numberToken (proper o ho).inRange.finite)

theorem toNat_lt_of_mem_text {c : Char} (h : c ∈ text os) : c.toNat < 0x80 := by
  rcases isVisible_text os c h with rfl | ⟨-, high⟩
  · decide
  · omega

end Payload

namespace Scan
variable {C : Console} {s : Surroundings} {r : ScanRequest} {os : List Observation}

/-- A scan whose checks all pass and whose polls all succeed yields what the polls observe. -/
inductive Yields (s : Surroundings) (r : ScanRequest) : List Observation → Prop where
  | intro {settings : Settings} {format : Format} {cs : List Collector} {os : List Observation}
      (loaded : Settings.load s.environment = .ok settings) (home : ¬ IsForeign s settings)
      (known : Format.ofName? r.format = some format)
      (built : (Collector.buildAll s.tree settings r.collectors).result = .ok cs)
      (polled : (pollAll s.tree cs).2 = .ok os) : Yields s r os

/-- The collectors of a scan, polled into one sink, leave there what the scan reports. -/
theorem observations_run_plain {tree : FileTree} {cs : List Collector}
    (polled : (pollAll tree cs).2 = .ok os) :
    (Sink.empty.run (cs.map (Turn.plain tree))).1.observations = os := by
  rw [Sink.observations_run, Sink.empty, List.nil_append, List.flatMap_map]
  induction cs generalizing os with
  | nil =>
    cases polled
    rfl
  | cons c rest ih =>
    cases here : (c.poll tree).result with
    | error e => simp [pollAll, here] at polled
    | ok p =>
      cases later : (pollAll tree rest).2 with
      | error e => simp [pollAll, here, later, Except.map] at polled
      | ok os' =>
        obtain rfl : p.observations ++ os' = os := by
          simpa [pollAll, here, later, Except.map] using polled
        rw [List.flatMap_cons, ih later, Turn.observations, Turn.polled_plain, here]
        rfl

theorem Yields.isProper (h : Yields s r os) : ∀ o ∈ os, o.IsProper := by
  cases h with
  | intro _ _ _ _ polled =>
    intro o ho
    rw [← observations_run_plain polled] at ho
    exact Sink.isProper_of_mem_run ho

theorem exitCode_message {o : Outcome} {t : Text} {code : Nat} (failed : code ≠ 0) :
    (o.message C t (·.exit code)).exitCode ≠ 0 := by
  rw [Outcome.message_exit]
  obtain ⟨printed, fault⟩ := C.message t
  cases fault with
  | none => exact failed
  | some fault => exact Nat.one_ne_zero

theorem exitCode_fail {o : Outcome} {format : Format} {code : Nat} {front : Text} {report : Report}
    (failed : code ≠ 0) : (fail C o format code front report).exitCode ≠ 0 := by
  cases format with
  | json => exact failed
  | table => exact exitCode_message failed

theorem exists_yields (done : (run C s r).exitCode = 0) : ∃ os, Yields s r os := by
  cases loaded : Settings.load s.environment with
  | error e =>
    rw [run_of_error C loaded] at done
    exact absurd done (exitCode_message Nat.one_ne_zero)
  | ok settings =>
    rw [run_of_ok C loaded] at done
    simp only [check] at done
    split at done
    · exact absurd done (exitCode_message (by decide))
    · rename_i home
      cases known : Format.ofName? r.format with
      | none =>
        rw [known] at done
        exact absurd done (exitCode_message Nat.one_ne_zero)
      | some format =>
        simp only [known, collect] at done
        split at done
        · exact absurd done (exitCode_fail Nat.one_ne_zero)
        · exact absurd done Nat.one_ne_zero
        · rename_i cs built
          split at done
          · exact absurd done (exitCode_fail (by decide))
          · exact absurd done Nat.one_ne_zero
          · rename_i os polled
            exact ⟨os, .intro loaded home known built polled⟩

theorem Yields.shows (sound : C.IsSound) (h : Yields s r os) :
    ∃ format, Format.ofName? r.format = some format ∧
      (run C s r).Shows C s.tree format r.out os := by
  cases h with
  | @intro settings format cs _ loaded home known built polled =>
    have collected (level : LogLevel) : ∃ ns,
        collect C (quiet s.tree []) settings level format r =
          report C (quiet s.tree ns) format r.out os := by
      have here (ns : List Notice) : (quiet s.tree ns).tree = s.tree := rfl
      have logged (ns ms : List Notice) : (quiet s.tree ns).log level ms =
          quiet s.tree (ns ++ ms.filter fun n => decide (level.weight ≤ n.level.weight)) := rfl
      simp only [collect, here, logged, built, polled]
      exact ⟨_, rfl⟩
    obtain ⟨ns, collected⟩ := collected (if r.verbose then .debug else settings.logLevel)
    have ran : run C s r = report C (quiet s.tree ns) format r.out os := by
      rw [run_of_ok C loaded, check]
      simp only [known]
      exact (if_neg home).trans collected
    rw [ran]
    exact ⟨format, known, (report_quiet sound s.tree ns format r.out os).2⟩

/-- The text of what a scan yields is in the file that it saves if it ends well, and printed with a
line feed behind it if it saves none and reports in JSON. -/
theorem Yields.reported (sound : C.IsSound) (h : Yields s r os) (done : (run C s r).exitCode = 0) :
    match r.out with
    | some path =>
      (run C s r).tree.contentAt (Path.normalize path) = .ok (Text.Utf8.encode (Payload.text os))
    | none => r.format = "json".toList → (run C s r).stdout = Payload.text os ++ ['\n'] := by
  obtain ⟨format, known, -, shows⟩ := h.shows sound
  cases out : r.out with
  | none =>
    intro json
    obtain rfl : Format.json = format := by
      rw [json] at known
      have json : Format.ofName? "json".toList = some .json := by decide
      exact Option.some.inj (json.symm.trans known)
    rw [out] at shows
    exact shows.2.1
  | some path =>
    simp only [out] at shows
    obtain ⟨-, -, shows⟩ := shows
    split at shows
    · rw [done] at shows
      cases shows.1
    · exact shows.1

theorem exists_poll {tree : FileTree} {cs : List Collector} (polled : (pollAll tree cs).2 = .ok os)
    {c : Collector} (hc : c ∈ cs) : ∃ p, (c.poll tree).result = .ok p := by
  rcases pollAll_cases tree cs with ⟨_, _, _, _, _, _, _, all⟩ | ⟨polls, done, _⟩
  · rw [all] at polled
    cases polled
  · obtain ⟨p, -, result⟩ := exists_of_forall₂ done.flip hc
    exact ⟨p, result⟩

/-- A scan that ends well reports every observation that its collectors leave in a sink, in order.
The text is in the JSON format, in ASCII, and is read back as the same observations, with number
texts that are worth the values; it is what the file holds that the scan saves, or what it prints in
JSON with a line feed behind it. -/
theorem run_payload {C : Console} (sound : C.IsSound) (s : Surroundings) (r : ScanRequest)
    (done : (run C s r).exitCode = 0) :
    ∃ settings cs, Settings.load s.environment = .ok settings ∧
      (Collector.buildAll s.tree settings r.collectors).result = .ok cs ∧
      (∀ c ∈ cs, ∃ p, (c.poll s.tree).result = .ok p) ∧
      let os := (Sink.empty.run (cs.map (Turn.plain s.tree))).1.observations
      let payload := Payload.text os
      (∀ o ∈ os, (o.labels.map Prod.fst).Nodup ∧ o.value.isFinite = true ∧
        (Literal.read? o.value.text).map Literal.toBinary64 = some o.value) ∧
      (∀ c ∈ payload, c.toNat < 0x80) ∧
      Json.Writes payload (.array (os.map Observation.toJson)) ∧
      Json.read? payload = some (.array (os.map Observation.toJson)) ∧
      match r.out with
      | some path =>
        (run C s r).tree.contentAt (Path.normalize path) = .ok (Text.Utf8.encode payload)
      | none => r.format = "json".toList → (run C s r).stdout = payload ++ ['\n'] := by
  obtain ⟨os, yields⟩ := exists_yields done
  have proper := yields.isProper
  have reported := yields.reported sound done
  have written := Payload.writes_text proper
  cases yields with
  | @intro settings _ cs _ loaded _ _ built polled =>
    refine ⟨settings, cs, loaded, built, fun c => exists_poll polled, ?_⟩
    rw [observations_run_plain polled]
    have read (o : Observation) (ho : o ∈ os) :=
      Binary64.read_text (proper o ho).canonical (proper o ho).inRange.finite
    exact ⟨fun o ho => ⟨(proper o ho).nodup, (proper o ho).inRange.finite, read o ho⟩,
      fun c => Payload.toNat_lt_of_mem_text, written, Json.read?_of_writes written, reported⟩

/-- Where the modules can be polled, a scan of them in JSON reports what is in the list: a module of
one byte that is live and used twice, each number by its text. -/
theorem run_payload_modules :
    let r : ScanRequest := ⟨["kernelmodules".toList], "json".toList, none, false⟩
    let os := KernelModule.observations ⟨['a'], .ofInt 1, .ofInt 2, .ofInt 1⟩
    (run .plain moduleSurroundings r).exitCode = 0 ∧
      os.map (fun o => String.ofList o.value.text) = ["1.0", "1.0", "2.0"] ∧
      Json.read? (Payload.text os) = some (.array (os.map Observation.toJson)) ∧
      (run .plain moduleSurroundings r).stdout = Payload.text os ++ ['\n'] := by
  intro r os
  have done : (run .plain moduleSurroundings r).exitCode = 0 := by decide +kernel
  obtain ⟨settings, cs, loaded, built, -, -, -, -, read, printed⟩ :=
    run_payload Console.isSound_plain moduleSurroundings r done
  obtain rfl : { Settings.defaults with modulePath := ['m'] } = settings :=
    Except.ok.inj (load_moduleSurroundings.symm.trans loaded)
  obtain rfl : [.kernelModules ⟨['m']⟩] = cs := by
    have all : (Collector.buildAll moduleSurroundings.tree
        { Settings.defaults with modulePath := ['m'] } r.collectors).result =
          .ok [.kernelModules ⟨['m']⟩] := by decide +kernel
    exact Except.ok.inj (all.symm.trans built)
  have gathered : (Sink.empty.run ([.kernelModules ⟨['m']⟩].map
      (Turn.plain moduleSurroundings.tree))).1.observations = os := by decide +kernel
  rw [gathered] at read printed
  exact ⟨done, by decide +kernel, read, printed rfl⟩

/-- Whatever the polls of a run find, every value in the sink is finite and in the range of its
metric. So what a scan yields and shows is in the JSON format, and no word stands in it for a value.
-/
theorem only_finite_values {C : Console} (sound : C.IsSound) :
    (∀ turns : List Turn, ∀ o ∈ (Sink.empty.run turns).1.observations,
      IsInRange o.name o.value) ∧
    ∀ (s : Surroundings) (r : ScanRequest) (os : List Observation), Yields s r os →
      (∃ format, Format.ofName? r.format = some format ∧
        (run C s r).Shows C s.tree format r.out os) ∧
      Json.Writes (Payload.text os) (Payload.ofObservations os) ∧
      (Payload.ofObservations os).EachNumber fun token =>
        token ∉ ["NaN".toList, "Infinity".toList, "-Infinity".toList] := by
  refine ⟨fun turns o ho => (Sink.isProper_of_mem_run ho).inRange, fun s r os yields => ?_⟩
  have proper := yields.isProper
  refine ⟨yields.shows sound, ?_, ?_⟩
  · rw [Payload.ofObservations_eq proper]
    exact Payload.writes_text proper
  · exact Payload.eachNumber_ofObservations fun o ho =>
      (Payload.isNumber_numberToken (proper o ho).inRange.finite).not_mem_words

/-- A scan of the modules in a list yields something, and shows it in the JSON format. -/
theorem only_finite_values_modules :
    let r : ScanRequest := ⟨["kernelmodules".toList], "json".toList, none, false⟩
    ∃ os, Yields moduleSurroundings r os ∧
      Json.Writes (Payload.text os) (Payload.ofObservations os) := by
  intro r
  obtain ⟨os, yields⟩ : ∃ os, Yields moduleSurroundings r os :=
    exists_yields (C := .plain) (by decide +kernel)
  have shown := (only_finite_values Console.isSound_plain).2 moduleSurroundings r os yields
  exact ⟨os, yields, shown.2.1⟩

end Scan

end PciInventory
