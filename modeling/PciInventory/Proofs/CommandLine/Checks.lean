import Mathlib.Data.List.Forall2
import PciInventory.Proofs.CommandLine.Streams
import PciInventory.Proofs.Collector.Failures
import PciInventory.Proofs.FileTree.Writing
import PciInventory.Proofs.Text.Quoting

/-!
# The checks of a scan

A scan is all or nothing. Its checks are made in a fixed order, and the first that fails decides the
exit code and what is said; then there is no table, no file is written, and nothing is polled any
more. If none fails, what is reported is what the polls yielded, one collector after the other in
the order in which they were named.

This is said of scans whose collectors fail in no other ways than those which are reported, and of
consoles that are sound.
-/
namespace PciInventory

theorem Database.loadFrom_eq_error {tree : FileTree} {all paths : List Text} {e : Failure}
    (h : (loadFrom tree all paths).result = .error e) : e = .nulInPath := by
  induction paths with
  | nil => cases h
  | cons path rest ih =>
    rw [loadFrom] at h
    split at h
    · split at h
      · cases h
      · exact ih h
    · cases h
      rfl

/-- What stands on the right of a list of pairs has a partner. -/
theorem exists_of_forall₂ {A B : Type} {R : A → B → Prop} {as : List A} {bs : List B} {b : B}
    (h : List.Forall₂ R as bs) (hb : b ∈ bs) : ∃ a ∈ as, R a b := by
  induction h with
  | nil => cases hb
  | cons pair _ ih =>
    rcases List.mem_cons.1 hb with rfl | hb
    · exact ⟨_, List.mem_cons_self, pair⟩
    · obtain ⟨a, ha, pair⟩ := ih hb
      exact ⟨a, List.mem_cons_of_mem _ ha, pair⟩

namespace Collector
variable {tree : FileTree} {settings : Settings} {name : Text} {names : List Text} {e : Failure}

def isKnown (name : Text) : Bool := (CollectorKind.ofName? name).isSome

/-- Collectors with some names that fail to be built and polled only in ways that are reported. -/
def FailAsReported (tree : FileTree) (settings : Settings) (names : List Text) : Prop :=
  ∀ name ∈ names,
    (∀ e, (build tree settings none name).result = .error e → e.report? ≠ none) ∧
    ∀ c, (build tree settings none name).result = .ok c →
      ∀ e, (c.poll tree).result = .error e → e.report? ≠ none

theorem build_of_unknown (unknown : isKnown name = false) :
    build tree settings none name = .silent (.error (.config (.collector name))) := by
  unfold isKnown at unknown
  unfold build
  cases found : CollectorKind.ofName? name with
  | none => rfl
  | some kind => simp [found] at unknown

/-- A collector with a known name is not built only for a failure that is not reported. -/
theorem build_of_known (known : isKnown name = true)
    (h : (build tree settings none name).result = .error e) : e.report? = none := by
  unfold isKnown at known
  unfold build at h
  cases found : CollectorKind.ofName? name with
  | none => simp [found] at known
  | some kind =>
    rw [found] at h
    cases kind with
    | kernelModules => cases h
    | pcie =>
      simp only [ofKind, Option.elim_none, Logged.andThen] at h
      split at h
      · rename_i failed
        cases h
        rw [Database.loadFrom_eq_error failed]
        rfl
      · cases h

theorem enumeration_of_report {c : Collector} (h : (c.poll tree).result = .error e)
    (reported : e.report? ≠ none) : ∃ r, e = .enumeration r := by
  rcases poll_eq_error_cases h with enumeration | rfl | rfl | rfl
  · exact enumeration
  · exact absurd rfl reported
  · exact absurd rfl reported
  · exact absurd rfl reported

/-- The notices of the collectors with some names as they are built. -/
def buildNotices (tree : FileTree) (settings : Settings) (names : List Text) : List Notice :=
  names.flatMap fun name => (build tree settings none name).notices

/-- Collectors are built in the order of their names, up to the first name that is unknown. -/
theorem buildAll_cases (own : FailAsReported tree settings names) :
    (∃ before name after, names = before ++ name :: after ∧ (∀ n ∈ before, isKnown n = true) ∧
      isKnown name = false ∧ buildAll tree settings names =
        ⟨buildNotices tree settings before, .error (.config (.collector name))⟩) ∨
    ∃ cs, (∀ n ∈ names, isKnown n = true) ∧
      List.Forall₂ (fun n c => (build tree settings none n).result = .ok c) names cs ∧
      buildAll tree settings names = ⟨buildNotices tree settings names, .ok cs⟩ := by
  induction names with
  | nil => exact .inr ⟨[], by simp, .nil, rfl⟩
  | cons first rest ih =>
    cases known : isKnown first with
    | false =>
      refine .inl ⟨[], first, rest, rfl, by simp, known, ?_⟩
      rw [buildAll, build_of_unknown known]
      rfl
    | true =>
      cases built : (build tree settings none first).result with
      | error e =>
        exact absurd (build_of_known known built) ((own first List.mem_cons_self).1 e built)
      | ok c =>
        rcases ih fun n hn => own n (List.mem_cons_of_mem first hn) with
          ⟨before, name, after, rfl, allKnown, unknown, all⟩ | ⟨cs, allKnown, polls, all⟩
        · refine .inl ⟨first :: before, name, after, rfl, ?_, unknown, ?_⟩
          · exact List.forall_mem_cons.2 ⟨known, allKnown⟩
          · simp only [buildAll, Logged.andThen, built, all, buildNotices, List.flatMap_cons]
        · refine .inr ⟨c :: cs, List.forall_mem_cons.2 ⟨known, allKnown⟩, .cons built polls, ?_⟩
          simp [buildAll, Logged.andThen, built, all, buildNotices, Logged.silent]

/-- The notices of the polls of some collectors, each with the one that it is done, if it is. -/
def pollNotices (tree : FileTree) (cs : List Collector) : List Notice :=
  cs.flatMap fun c => (c.poll tree).notices ++
    match (c.poll tree).result with
    | .ok p => [.pollDone c.kind p.count]
    | .error _ => []

end Collector

namespace Scan

open Collector

/-- Collectors are polled in order, up to the first poll that fails. -/
theorem pollAll_cases (tree : FileTree) (cs : List Collector) :
    (∃ before c after e, cs = before ++ c :: after ∧
      (∀ b ∈ before, ∃ p, (b.poll tree).result = .ok p) ∧ (c.poll tree).result = .error e ∧
      pollAll tree cs = (pollNotices tree (before ++ [c]), .error (c.kind, e))) ∨
    ∃ polls, List.Forall₂ (fun (c : Collector) p => (c.poll tree).result = .ok p) cs polls ∧
      pollAll tree cs = (pollNotices tree cs, .ok (polls.flatMap Poll.observations)) := by
  induction cs with
  | nil => exact .inr ⟨[], .nil, rfl⟩
  | cons c rest ih =>
    cases polled : (c.poll tree).result with
    | error e =>
      refine .inl ⟨[], c, rest, e, rfl, by simp, polled, ?_⟩
      simp [pollAll, pollNotices, polled]
    | ok p =>
      rcases ih with ⟨before, c', after, e, rfl, done, failed, all⟩ | ⟨polls, done, all⟩
      · refine .inl ⟨c :: before, c', after, e, rfl, ?_, failed, ?_⟩
        · exact List.forall_mem_cons.2 ⟨⟨p, polled⟩, done⟩
        · simp [pollAll, pollNotices, polled, all, Except.map]
      · refine .inr ⟨p :: polls, .cons polled done, ?_⟩
        simp [pollAll, pollNotices, polled, all, Except.map]

end Scan

/-- A command that ended with a code and changed nothing: it showed no table and left the files as
they were. -/
structure Outcome.Stops (o : Outcome) (tree : FileTree) (code : Nat) (notices : List Notice) :
    Prop where
  exitCode : o.exitCode = code
  notices : o.notices = notices
  tables : o.tables = []
  tree : o.tree = tree

/-- A command that printed a message and nothing else. -/
def Outcome.Prints (C : Console) (o : Outcome) (t : Text) : Prop :=
  o.stdout = (C.message t).1 ∧ o.stderr = []

/-- A command that told of a failure, and of nothing else, in the way that goes with a format. -/
def Outcome.TellsOf (C : Console) (o : Outcome) (format : Scan.Format) (front : Text) (r : Report) :
    Prop :=
  match format with
  | .json => o.stdout = [] ∧ o.stderr = r.toJson.compact ++ ['\n']
  | .table => o.Prints C (Markup.alert (front ++ r.text))

/-- A command that reported some observations: as JSON or as a table, or as JSON in a file. Behind
the file's path they are read back then, and the command ends well if it can say so; it can if no
opening bracket and no joiner is in the path. If the file is refused, the command fails for that.
Either way nothing else becomes of the files than that directories are made. -/
def Outcome.Shows (C : Console) (o : Outcome) (tree : FileTree) (format : Scan.Format)
    (out : Option Text) (os : List Observation) : Prop :=
  o.stderr = [] ∧
  match out, format with
  | none, .json =>
    o.exitCode = 0 ∧ o.stdout = (Payload.ofObservations os).indented ++ ['\n'] ∧ o.tables = [] ∧
      o.tree = tree
  | none, .table =>
    o.exitCode = 0 ∧ o.stdout = [] ∧ o.tables = [.ofObservations os] ∧ o.tree = tree
  | some path, _ =>
    o.tables = [] ∧
    let path := Path.normalize path
    let saved := Scan.save tree path (Payload.text os)
    let said := C.message (Scan.savedMessage os.length path)
    o.tree = saved.1 ∧
    match saved.2 with
    | some e =>
      o.exitCode = 1 ∧ o.stdout = [] ∧ o.escaped = some e ∧ tree.GainsDirectories o.tree
    | none =>
      o.tree.contentAt path = .ok (Text.Utf8.encode (Payload.ofObservations os).indented) ∧
      (∃ made place, tree.GainsDirectories made ∧ o.tree.locate path = .ok place ∧
        made.AlikeOutside o.tree place) ∧
      o.stdout = said.1 ∧ (o.exitCode = if said.2 = none then 0 else 1) ∧
      ('[' ∉ path → Cell.joiner ∉ path → o.exitCode = 0)

namespace Scan

/-- The notices that a scan lets through. -/
def heard (settings : Settings) (r : ScanRequest) (ns : List Notice) : List Notice :=
  let level := if r.verbose then .debug else settings.logLevel
  ns.filter fun n => decide (level.weight ≤ n.level.weight)

/-- On another platform there are no devices in the default directory. -/
def IsForeign (s : Surroundings) (settings : Settings) : Prop :=
  s.platform ≠ homePlatform ∧ settings.deviceRoot = Settings.defaultDeviceRoot

/-- How a scan ends: at the first check that fails, or with all that the polls yielded. -/
inductive Ending (C : Console) (s : Surroundings) (r : ScanRequest) (o : Outcome) : Prop where
  | settings {e : ConfigError} (bad : Settings.load s.environment = .error e)
      (stops : o.Stops s.tree 1 []) (prints : o.Prints C (Markup.alert e.report.text))
  | platform {settings : Settings} (loaded : Settings.load s.environment = .ok settings)
      (foreign : IsForeign s settings)
      (stops : o.Stops s.tree 2 []) (prints : o.Prints C foreignPlatform)
  | format {settings : Settings} (loaded : Settings.load s.environment = .ok settings)
      (home : ¬ IsForeign s settings)
      (unknown : Format.ofName? r.format = none)
      (stops : o.Stops s.tree 1 []) (prints : o.Prints C (unknownFormat r.format))
  | collector {settings : Settings} {format : Format} {before after : List Text} {name : Text}
      (loaded : Settings.load s.environment = .ok settings)
      (home : ¬ IsForeign s settings)
      (known : Format.ofName? r.format = some format)
      (named : r.collectors = before ++ name :: after)
      (first : ∀ n ∈ before, Collector.isKnown n = true) (unknown : Collector.isKnown name = false)
      (stops : o.Stops s.tree 1 (heard settings r (Collector.buildNotices s.tree settings before)))
      (tells : o.TellsOf C format [] (ConfigError.collector name).report)
  | poll {settings : Settings} {format : Format} {cs before after : List Collector} {c : Collector}
      {e : EnumerationError} (loaded : Settings.load s.environment = .ok settings)
      (home : ¬ IsForeign s settings)
      (known : Format.ofName? r.format = some format)
      (all : ∀ n ∈ r.collectors, Collector.isKnown n = true)
      (built : List.Forall₂ (fun n c => (Collector.build s.tree settings none n).result = .ok c)
        r.collectors cs)
      (listed : cs = before ++ c :: after)
      (first : ∀ b ∈ before, ∃ p, (b.poll s.tree).result = .ok p)
      (failed : (c.poll s.tree).result = .error (.enumeration e))
      (stops : o.Stops s.tree 3 (heard settings r
        (Collector.buildNotices s.tree settings r.collectors ++
          Collector.pollNotices s.tree (before ++ [c]))))
      (tells : o.TellsOf C format (failedFront c.kind) e.report)
  | done {settings : Settings} {format : Format} {cs : List Collector} {polls : List Poll}
      (loaded : Settings.load s.environment = .ok settings)
      (home : ¬ IsForeign s settings)
      (known : Format.ofName? r.format = some format)
      (all : ∀ n ∈ r.collectors, Collector.isKnown n = true)
      (built : List.Forall₂ (fun n c => (Collector.build s.tree settings none n).result = .ok c)
        r.collectors cs)
      (polled : List.Forall₂ (fun (c : Collector) p => (c.poll s.tree).result = .ok p) cs polls)
      (notices : o.notices = heard settings r
        (Collector.buildNotices s.tree settings r.collectors ++ Collector.pollNotices s.tree cs))
      (shows : o.Shows C s.tree format r.out (polls.flatMap Poll.observations))

variable {C : Console} {tree : FileTree} {ns : List Notice} {format : Format} {code : Nat}

/-- A command that has done nothing but let notices through. -/
def quiet (tree : FileTree) (ns : List Notice) : Outcome := ⟨0, [], [], ns, [], tree, none⟩

theorem message_quiet {t : Text} (h : code = 1 ∨ (C.message t).2 = none) :
    ((quiet tree ns).message C t (·.exit code)).Stops tree code ns ∧
      ((quiet tree ns).message C t (·.exit code)).Prints C t := by
  rw [Outcome.message_exit, Outcome.Prints]
  generalize C.message t = said at h ⊢
  obtain ⟨printed, fault⟩ := said
  cases fault with
  | none => exact ⟨⟨rfl, rfl, rfl, rfl⟩, rfl, rfl⟩
  | some fault =>
    obtain rfl : code = 1 := h.resolve_right (Option.some_ne_none fault)
    exact ⟨⟨rfl, rfl, rfl, rfl⟩, rfl, rfl⟩

theorem fail_quiet (sound : C.IsSound) (tree : FileTree) (ns : List Notice) (format : Format)
    (code : Nat) (front : Text) (report : Report)
    (h : code = 1 ∨ (C.message (Markup.alert (front ++ report.text))).2 = none) :
    (fail C (quiet tree ns) format code front report).Stops tree code ns ∧
      (fail C (quiet tree ns) format code front report).TellsOf C format front report := by
  cases format with
  | table => exact message_quiet h
  | json =>
    refine ⟨⟨rfl, rfl, rfl, rfl⟩, rfl, ?_⟩
    change [] ++ C.line report.toJson.compact = _
    rw [List.nil_append, sound.line_of_isVisible report.isVisible_compact_toJson]

/-- Saving makes directories, and either is refused with them or writes one file, which is read
back. -/
theorem save_cases (tree : FileTree) (path content : Text) :
    ∃ made, tree.GainsDirectories made ∧
      ((∃ e, save tree path content = (made, some e)) ∨
        ∃ saved place, save tree path content = (saved, none) ∧
          saved.contentAt path = .ok (Text.Utf8.encode content) ∧
          saved.locate path = .ok place ∧ made.AlikeOutside saved place) := by
  have gained := FileTree.gainsDirectories_makeDirectories tree (Path.parent path)
  unfold save
  simp only
  split
  · exact ⟨tree, .refl tree, .inl ⟨_, rfl⟩⟩
  · generalize tree.makeDirectories (Path.parent path) = making at gained
    obtain ⟨made, refusal⟩ := making
    refine ⟨made, gained, ?_⟩
    cases refusal with
    | some r => exact .inl ⟨.refused r path, rfl⟩
    | none =>
      cases writing : made.writeFile path (Text.Utf8.encode content) with
      | error r => exact .inl ⟨.refused r path, by simp only [writing]⟩
      | ok saved =>
        obtain ⟨read, place, located, alike⟩ := FileTree.contentAt_writeFile writing
        exact .inr ⟨saved, place, by simp only [writing], read, located, alike⟩

theorem report_quiet (sound : C.IsSound) (tree : FileTree) (ns : List Notice) (format : Format)
    (out : Option Text) (os : List Observation) :
    (report C (quiet tree ns) format out os).notices = ns ∧
      (report C (quiet tree ns) format out os).Shows C tree format out os := by
  cases out with
  | none =>
    cases format with
    | table => exact ⟨rfl, rfl, rfl, rfl, rfl, rfl⟩
    | json =>
      refine ⟨rfl, rfl, rfl, ?_, rfl, rfl⟩
      change [] ++ C.line (Payload.text os) = _
      rw [List.nil_append, sound.line_of_isVisible (Payload.isVisible_text os)]
      rfl
  | some path =>
    simp only [Outcome.Shows]
    obtain ⟨made, gained, ⟨e, saving⟩ | ⟨saved, place, saving, read, located, alike⟩⟩ :=
      save_cases tree (Path.normalize path) (Payload.text os)
    · have ran : report C (quiet tree ns) format (some path) os = (quiet made ns).escape e := by
        simp only [report, quiet, saving]
      rw [ran, saving]
      exact ⟨rfl, rfl, rfl, rfl, rfl, rfl, rfl, gained⟩
    · have ran : report C (quiet tree ns) format (some path) os = (quiet saved ns).message C
          (savedMessage os.length (Path.normalize path)) id := by
        simp only [report, quiet, saving]
      have plain : '[' ∉ Path.normalize path → Cell.joiner ∉ Path.normalize path → _ :=
        message_savedMessage sound os.length
      rw [ran, saving]
      simp only [Outcome.message]
      generalize C.message (savedMessage os.length (Path.normalize path)) = said at plain
      obtain ⟨printed, fault⟩ := said
      cases fault with
      | none =>
        exact ⟨rfl, rfl, rfl, rfl, read, ⟨made, place, gained, located, alike⟩, rfl, rfl,
          fun _ _ => rfl⟩
      | some fault =>
        exact ⟨rfl, rfl, rfl, rfl, read, ⟨made, place, gained, located, alike⟩, rfl, rfl,
          fun hp hf => nomatch plain hp hf⟩

theorem text_report (e : EnumerationError) : e.report.text =
    e.listing.wording ++ ": ".toList ++ e.refusal.message e.path ++
      if e.path.isEmpty then [] else " (path=".toList ++ Text.quoted e.path ++ [')'] := by
  cases h : e.path.isEmpty
  · simp [EnumerationError.report, Report.enumeration, Report.text, Report.detailText, h,
      Option.filter, Table.ofRows, Table.rows, Table.insert, Table.isEmpty, Table.empty, Table.get?,
      Text.joinWith, Detail.written]
  · simp [EnumerationError.report, Report.enumeration, Report.text, h, Option.filter, Table.ofRows,
      Table.isEmpty, Table.empty]

theorem joiner_not_mem_report (kind : CollectorKind) (e : EnumerationError) :
    Cell.joiner ∉ failedFront kind ++ e.report.text := by
  have path : Cell.joiner ∉ Text.quoted e.path := by
    intro h
    exact absurd (Text.isPrintable_of_mem_quoted h) (by decide +kernel)
  have number (n : Nat) : Cell.joiner ∉ Text.ofNat n :=
    Text.not_mem_toDigits (by decide) (by decide) n
  have front : Cell.joiner ∉ failedFront kind := by cases kind <;> decide
  have listing : Cell.joiner ∉ e.listing.wording := by cases e.listing <;> decide
  have refusal : Cell.joiner ∉ e.refusal.wording := by cases e.refusal <;> decide
  have errno : Cell.joiner ∉ "[Errno ".toList := by decide
  have bracket : Cell.joiner ∉ "] ".toList := by decide
  have colon : Cell.joiner ∉ ": ".toList := by decide
  have detail : Cell.joiner ∉ " (path=".toList := by decide
  have closed : Cell.joiner ∉ [')'] := by decide
  have refused : Cell.joiner ∉ e.refusal.message e.path := by
    unfold Refusal.message
    simp only [List.mem_append, not_or]
    exact ⟨⟨⟨⟨⟨errno, number _⟩, bracket⟩, refusal⟩, colon⟩, path⟩
  rw [text_report]
  split
  · simp only [List.mem_append, not_or]
    exact ⟨front, ⟨⟨listing, colon⟩, refused⟩, List.not_mem_nil⟩
  · simp only [List.mem_append, not_or]
    exact ⟨front, ⟨⟨listing, colon⟩, refused⟩, ⟨detail, path⟩, closed⟩

variable {s : Surroundings} {r : ScanRequest} {settings : Settings}

theorem log_quiet (settings : Settings) (r : ScanRequest) (ms : List Notice) :
    (quiet tree ns).log (if r.verbose then .debug else settings.logLevel) ms =
      quiet tree (ns ++ heard settings r ms) := rfl

theorem heard_append (as bs : List Notice) :
    heard settings r (as ++ bs) = heard settings r as ++ heard settings r bs :=
  List.filter_append ..

/-- A scan whose settings, platform and format are right ends at the names of the collectors, at a
poll, or with all that was polled. -/
theorem ending_collect (sound : C.IsSound) (loaded : Settings.load s.environment = .ok settings)
    (home : ¬ IsForeign s settings) (known : Format.ofName? r.format = some format)
    (own : Collector.FailAsReported s.tree settings r.collectors) :
    Ending C s r (collect C (quiet s.tree []) settings
      (if r.verbose then .debug else settings.logLevel) format r) := by
  have here (ns : List Notice) : (quiet s.tree ns).tree = s.tree := rfl
  rcases Collector.buildAll_cases own with
    ⟨before, name, after, named, first, unknown, all⟩ | ⟨cs, allKnown, built, all⟩
  · simp only [collect, here, all, log_quiet, List.nil_append]
    obtain ⟨stops, tells⟩ := fail_quiet sound s.tree
      (heard settings r (Collector.buildNotices s.tree settings before)) format 1 []
      (ConfigError.collector name).report (.inl rfl)
    exact .collector loaded home known named first unknown stops tells
  · simp only [collect, here, all, log_quiet, List.nil_append]
    rcases pollAll_cases s.tree cs with
      ⟨before, c, after, e, listed, done, failed, polled⟩ | ⟨polls, done, polled⟩
    · obtain ⟨name, hn, hc⟩ := exists_of_forall₂ built (listed ▸ by simp : c ∈ cs)
      obtain ⟨e, rfl⟩ := Collector.enumeration_of_report failed ((own name hn).2 c hc e failed)
      simp only [polled, ← heard_append]
      obtain ⟨stops, tells⟩ := fail_quiet sound s.tree
        (heard settings r (Collector.buildNotices s.tree settings r.collectors ++
          Collector.pollNotices s.tree (before ++ [c]))) format 3 (failedFront c.kind) e.report
        (.inr (sound.message_alert (joiner_not_mem_report c.kind e)))
      exact .poll loaded home known allKnown built listed done failed stops tells
    · simp only [polled, ← heard_append]
      obtain ⟨notices, shows⟩ := report_quiet sound s.tree
        (heard settings r (Collector.buildNotices s.tree settings r.collectors ++
          Collector.pollNotices s.tree cs)) format r.out (polls.flatMap Poll.observations)
      exact .done loaded home known allKnown built done notices shows

/-- A scan makes its checks in order, is all or nothing, and reports what its polls yielded. -/
theorem run_ending {C : Console} (sound : C.IsSound) (s : Surroundings) (r : ScanRequest)
    (own : ∀ settings, Settings.load s.environment = .ok settings →
      Collector.FailAsReported s.tree settings r.collectors) : Ending C s r (run C s r) := by
  cases loaded : Settings.load s.environment with
  | error e =>
    rw [run_of_error C loaded]
    obtain ⟨stops, prints⟩ := message_quiet (.inl rfl)
    exact .settings loaded stops prints
  | ok settings =>
    rw [run_of_ok C loaded]
    simp only [check]
    split
    · rename_i foreign
      obtain ⟨stops, prints⟩ := message_quiet (.inr (message_foreignPlatform sound))
      exact .platform loaded foreign stops prints
    · rename_i home
      cases known : Format.ofName? r.format with
      | none =>
        obtain ⟨stops, prints⟩ := message_quiet (.inl rfl)
        exact .format loaded home known stops prints
      | some format => exact ending_collect sound loaded home known (own settings loaded)

/-- A module list, and no directory of devices. -/
def moduleTree : FileTree :=
  (FileTree.empty []).put [['m']] (.file (Text.Utf8.encode "a 1 2 - Live 0\n".toList))

/-- The surroundings in which that list is polled. -/
def moduleSurroundings : Surroundings :=
  ⟨.ofRows [(Settings.moduleVariable, ['m'])], moduleTree, homePlatform⟩

theorem load_moduleSurroundings : Settings.load moduleSurroundings.environment =
    .ok { Settings.defaults with modulePath := ['m'] } := by
  decide +kernel

/-- Where the modules can be polled and the devices cannot, a scan of both ends with code 3. -/
theorem run_ending_refused :
    let r : ScanRequest := ⟨["kernelmodules".toList, "pcie".toList], "table".toList, none, false⟩
    Ending .plain moduleSurroundings r (run .plain moduleSurroundings r) ∧
      (run .plain moduleSurroundings r).exitCode = 3 := by
  intro r
  refine ⟨run_ending Console.isSound_plain moduleSurroundings r ?_, by decide +kernel⟩
  intro settings loaded
  obtain rfl : { Settings.defaults with modulePath := ['m'] } = settings :=
    Except.ok.inj (load_moduleSurroundings.symm.trans loaded)
  intro name hn
  simp only [r, List.mem_cons, List.not_mem_nil, or_false] at hn
  rcases hn with rfl | rfl
  · have built : (Collector.build moduleSurroundings.tree
        { Settings.defaults with modulePath := ['m'] } none "kernelmodules".toList).result =
          .ok (.kernelModules ⟨['m']⟩) := by decide +kernel
    have polled : ((Collector.kernelModules ⟨['m']⟩).poll moduleSurroundings.tree).result.isOk =
        true := by decide +kernel
    rw [built]
    refine ⟨nofun, ?_⟩
    rintro c ⟨⟩ e failed
    rw [failed] at polled
    cases polled
  · have built : (Collector.build moduleSurroundings.tree
        { Settings.defaults with modulePath := ['m'] } none "pcie".toList).result =
          .ok (.pcie ⟨.empty, Settings.defaultDeviceRoot⟩) := by decide +kernel
    have polled : ((Collector.pcie ⟨.empty, Settings.defaultDeviceRoot⟩).poll
        moduleSurroundings.tree).result =
          .error (.enumeration ⟨.devices, .notFound, Settings.defaultDeviceRoot⟩) := by
      decide +kernel
    rw [built]
    refine ⟨nofun, ?_⟩
    rintro c ⟨⟩ e failed
    rw [polled] at failed
    cases failed
    nofun

/-- With tags in the name of the file that it saves a scan saves all observations and then fails. -/
theorem run_tagged_out :
    let o := run .plain moduleSurroundings
      ⟨["kernelmodules".toList], "table".toList, some "[/b]/o.json".toList, false⟩
    o.exitCode = 1 ∧ o.escaped = some (.markup .unopenedStyle) ∧ o.stdout = [] ∧
      o.tree.contentAt "[/b]/o.json".toList = .ok (Text.Utf8.encode (Payload.text
        (KernelModule.observations ⟨['a'], .ofInt 1, .ofInt 2, .ofInt 1⟩))) := by
  decide +kernel

end Scan

end PciInventory
