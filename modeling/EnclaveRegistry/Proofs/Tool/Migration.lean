import EnclaveRegistry.Gateway.Settings
import EnclaveRegistry.Proofs.Genesis.Version
import EnclaveRegistry.Proofs.Keeper.Operation
import EnclaveRegistry.Proofs.Program
import EnclaveRegistry.Tool.Command

/-! # Migration to a file and at the start

An older document is carried over by the tool, to a file, or by whoever starts from it, in memory.
Both ways lead to the same: the text that the tool writes is loaded as the document that the older
text is loaded as, so that no start and no report can tell the two texts apart.
-/
namespace EnclaveRegistry

open Genesis (Document LegacyState State)
open Program (Surroundings)
open Schema (ofJson toPrettyJson)

variable {σ : Type} {files : Surroundings (StateM σ)} {state : σ}

/-! ## Texts of one document -/

namespace Genesis

theorem load_of_pretty {document : Document State} {text : Bytes} (h : load text = .ok document) :
    load (toPrettyJson document) = .ok document := by
  have hcurrent := eq_current_of_load h
  generalize document.state = state at hcurrent
  subst hcurrent
  exact load_of_writes (.inr rfl)

theorem migrate_pretty {document : Document State} {text : Bytes} (h : load text = .ok document) :
    migrate (toPrettyJson document) = .error (.shapeMismatch .alreadyCurrent) := by
  have hcurrent := eq_current_of_load h
  generalize document.state = state at hcurrent
  subst hcurrent
  exact migrate_current (readVersion_of_writes (.inr rfl))

end Genesis

theorem Keeper.start_congr (keeper : Keeper) {text other : Bytes}
    (h : Genesis.load text = Genesis.load other) : keeper.start text = keeper.start other := by
  rw [start, start, h]

theorem Tool.inspect_congr (verifier : Verifier) {text other : Bytes}
    (h : Genesis.load text = Genesis.load other) :
    inspect verifier text = inspect verifier other := by
  rw [inspect, inspect, Keeper.start_congr _ h]

/-! ## The tool -/

namespace Tool

theorem runIn_accept {ε α : Type} {refuse : ε → ToolError} {result : Except ε α} :
    (accept refuse result).runIn files state = (result.mapError refuse, state) := by
  cases result <;> rfl

variable {input output : String} {raw : Bytes}

theorem runIn_migrate_error {error : Genesis.MigrationError}
    (hinput : files.Reads input state (.ok raw)) (h : Genesis.migrate raw = .error error) :
    (migrate input output).runIn files state = (.error (.document error), state) := by
  rw [migrate, Task.runIn_bind_ok (Task.runIn_readFile hinput), h]
  exact Task.runIn_bind_error runIn_accept

theorem runIn_migrate_ok {document : Document State} {after : σ}
    (hinput : files.Reads input state (.ok raw)) (h : Genesis.migrate raw = .ok document)
    (hwrite : (files.write output (toPrettyJson document)).run state = (.ok (), after)) :
    (migrate input output).runIn files state = (.ok document.state.records.length, after) := by
  rw [migrate, Task.runIn_bind_ok (Task.runIn_readFile hinput), h]
  rw [Task.runIn_bind_ok runIn_accept, Task.runIn_bind_ok (Task.runIn_writeFile hwrite)]
  rfl

end Tool

/-! ## The gateway -/

namespace Gateway.Settings

variable {settings : Settings} {after : σ}

/-- The same verifier is set up, or none for the same reason, wherever the root certificate is read
alike. -/
theorem exists_runIn_verifier (hroot : ∀ path, settings.rootPath = some path →
    ∃ answer, files.Reads path state answer ∧ files.Reads path after answer) :
    ∃ result, settings.verifier.runIn files state = (result, state) ∧
      settings.verifier.runIn files after = (result, after) := by
  rw [verifier]
  by_cases hmock : settings.mockMode
  · rw [if_pos hmock]
    exact ⟨_, rfl, rfl⟩
  · rw [if_neg hmock]
    cases hpath : settings.rootPath with
    | none => exact ⟨_, rfl, rfl⟩
    | some path =>
      obtain ⟨answer, hstate, hafter⟩ := hroot path hpath
      have hread {now : σ} (h : files.Reads path now answer) :
          (do return Nitro.verifier (← readFile path (.noRoot path)) :
            Task SetupError Verifier).runIn files now =
              ((answer.mapError (SetupError.noRoot path)).map Nitro.verifier, now) := by
        cases answer with
        | ok root => rw [Task.runIn_bind_ok (Task.runIn_readFile h)]; rfl
        | error error => exact Task.runIn_bind_error (Task.runIn_readFile h)
      exact ⟨_, hread hstate, hread hafter⟩

def withGenesis (settings : Settings) (path : String) : Settings :=
  { settings with genesisPath := some path }

theorem runIn_start_ok {verifier : Verifier} {path : String} {text : Bytes}
    (hverifier : settings.verifier.runIn files state = (.ok verifier, state))
    (hread : files.Reads path state (.ok text)) :
    (settings.withGenesis path).start.runIn files state =
      (startFrom ⟨verifier, settings.policy⟩ text, state) := by
  have hsame : (settings.withGenesis path).verifier.runIn files state = (.ok verifier, state) :=
    hverifier
  rw [start, Task.runIn_bind_ok hsame]
  dsimp only [withGenesis]
  rw [Task.runIn_bind_ok (Task.runIn_readFile hread)]
  cases startFrom ⟨verifier, settings.policy⟩ text <;> rfl

theorem startFrom_congr (keeper : Keeper) {text text' : Bytes}
    (h : Genesis.load text' = Genesis.load text) :
    startFrom keeper text' = startFrom keeper text := by
  rw [startFrom, keeper.start_congr h, startFrom]

theorem runIn_start_error {error : SetupError} (path : String)
    (hverifier : settings.verifier.runIn files state = (.error error, state)) :
    (settings.withGenesis path).start.runIn files state = (.error error, state) :=
  Task.runIn_bind_error hverifier

theorem exists_runIn_start {path other : String} {text text' : Bytes}
    (hread : files.Reads path state (.ok text)) (hread' : files.Reads other after (.ok text'))
    (hload : Genesis.load text' = Genesis.load text)
    (hroot : ∀ root, settings.rootPath = some root →
      ∃ answer, files.Reads root state answer ∧ files.Reads root after answer) :
    ∃ result, (settings.withGenesis path).start.runIn files state = (result, state) ∧
      (settings.withGenesis other).start.runIn files after = (result, after) := by
  obtain ⟨verifier?, hverifier, hverifier'⟩ := exists_runIn_verifier hroot
  cases verifier? with
  | error error => exact ⟨_, runIn_start_error path hverifier, runIn_start_error other hverifier'⟩
  | ok verifier =>
    have hstart := runIn_start_ok hverifier' hread'
    rw [startFrom_congr _ hload] at hstart
    exact ⟨_, runIn_start_ok hverifier hread, hstart⟩

end Gateway.Settings

namespace Tool

/-- What the tool does with an older document. A text that cannot be carried over leaves every file
as it is. Otherwise the tool writes the document, counts the records of the first schema, and
whoever starts from the written text or reports on it does so as from the older text, with every
verifier and either policy: with the same store or for the same reason not at all. The written text
is not carried over once more. -/
theorem migration_to_file_agrees {input output : String} {raw : Bytes}
    (hinput : files.Reads input state (.ok raw)) (houtput : files.Keeps output state) :
    (∀ error, Genesis.migrate raw = .error error →
      (migrate input output).runIn files state = (.error (.document error), state)) ∧
    ∀ document, Genesis.migrate raw = .ok document →
      ∃ old after, ofJson (Document LegacyState) raw = .ok ⟨1, old⟩ ∧
        (files.write output (toPrettyJson document)).run state = (.ok (), after) ∧
        files.Reads output after (.ok (toPrettyJson document)) ∧
        (migrate input output).runIn files state = (.ok old.records.length, after) ∧
        (∀ keeper : Keeper, keeper.start (toPrettyJson document) = keeper.start raw) ∧
        (∀ settings : Gateway.Settings, (∀ root, settings.rootPath = some root →
            ∃ answer, files.Reads root state answer ∧ files.Reads root after answer) →
          ∃ result, (settings.withGenesis input).start.runIn files state = (result, state) ∧
            (settings.withGenesis output).start.runIn files after = (result, after)) ∧
        (∀ verifier, inspect verifier (toPrettyJson document) = inspect verifier raw) ∧
        ∀ again, (migrate output again).runIn files after =
          (.error (.document (.shapeMismatch .alreadyCurrent)), after) := by
  refine ⟨fun error => runIn_migrate_error hinput, fun document hmigrate => ?_⟩
  obtain ⟨old, hold, hdocument⟩ := Genesis.exists_legacy_of_migrate hmigrate
  obtain ⟨after, hwrite, hread⟩ := houtput (toPrettyJson document)
  have hload : Genesis.load raw = .ok document := Genesis.load_of_migrate hmigrate
  have hsame : Genesis.load (toPrettyJson document) = Genesis.load raw := by
    rw [hload]
    exact Genesis.load_of_pretty hload
  have hcount : document.state.records.length = old.records.length := by
    rw [hdocument]
    exact List.length_map Genesis.LegacyRecord.migrate
  refine ⟨old, after, hold, hwrite, hread, ?_, fun keeper => keeper.start_congr hsame, ?_,
    fun verifier => inspect_congr verifier hsame, ?_⟩
  · rw [← hcount]
    exact runIn_migrate_ok hinput hmigrate hwrite
  · intro settings hroot
    exact Gateway.Settings.exists_runIn_start hinput hread hsame hroot
  · intro again
    exact runIn_migrate_error hread (Genesis.migrate_pretty hload)

/-- Files in memory: each holds what was written to it last. -/
def memory : Surroundings (StateM (String → Except FileError Bytes)) where
  read path := fun files => (files path, files)
  write path content := fun files =>
    (.ok (), fun other => if other = path then .ok content else files other)
  fetch address := fun files => (.error ⟨address⟩, files)

theorem memory_reads {files : String → Except FileError Bytes} {path : String}
    {answer : Except FileError Bytes} (h : files path = answer) :
    memory.Reads path files answer := by
  subst h
  rfl

theorem memory_keeps (files : String → Except FileError Bytes) (path : String) :
    memory.Keeps path files :=
  fun _ => ⟨_, rfl, memory_reads (if_pos rfl)⟩

def sampleFiles (path : String) : Except FileError Bytes :=
  if path = "old.json" then .ok Genesis.legacyText
  else if path = "distant.json" then .ok Genesis.distantText
  else .error .missing

def sampleSettings : Gateway.Settings := ⟨"0.0.0.0:3000", none, false, .setOnce, some "root.der"⟩

theorem migration_to_file_agrees_sample :
    (memory.Reads "distant.json" sampleFiles (.ok Genesis.distantText) ∧
      memory.Keeps "new.json" sampleFiles ∧
      (migrate "distant.json" "new.json").runIn memory sampleFiles =
        (.error (.document (.unsupportedVersion 0x100000002)), sampleFiles)) ∧
    memory.Reads "old.json" sampleFiles (.ok Genesis.legacyText) ∧
      ∃ document after, Genesis.migrate Genesis.legacyText = .ok document ∧
        (migrate "old.json" "new.json").runIn memory sampleFiles = (.ok 2, after) ∧
        after "new.json" = .ok (toPrettyJson document) ∧
        (Keeper.plain .setOnce).start (toPrettyJson document) =
          (Keeper.plain .setOnce).start Genesis.legacyText ∧
        (∃ result,
          (sampleSettings.withGenesis "old.json").start.runIn memory sampleFiles =
            (result, sampleFiles) ∧
          (sampleSettings.withGenesis "new.json").start.runIn memory after =
            (result, after)) ∧
        (migrate "new.json" "old.json").runIn memory after =
          (.error (.document (.shapeMismatch .alreadyCurrent)), after) := by
  have hdistant : Genesis.migrate Genesis.distantText =
      .error (.unsupportedVersion 0x100000002) :=
    Genesis.migrate_unsupported (Genesis.readVersion_of_writes_header (.inl rfl)) (by decide)
      (by decide)
  have hreads : memory.Reads "distant.json" sampleFiles (.ok Genesis.distantText) :=
    memory_reads (by simp [sampleFiles])
  have hkeeps : memory.Keeps "new.json" sampleFiles := memory_keeps sampleFiles "new.json"
  have hold : memory.Reads "old.json" sampleFiles (.ok Genesis.legacyText) := rfl
  have hmigrate : Genesis.migrate Genesis.legacyText =
      .ok (.current Genesis.LegacyState.sample.migrate) := Genesis.migrate_of_writes (.inl rfl)
  obtain ⟨hrefused, -⟩ := migration_to_file_agrees hreads hkeeps
  obtain ⟨-, hmigrated⟩ := migration_to_file_agrees hold hkeeps
  obtain ⟨old, after, hlegacy, hwrite, hwritten, hrun, hkeepers, hsettings, -, hagain⟩ :=
    hmigrated _ hmigrate
  have hsample : ofJson (Document LegacyState) Genesis.legacyText =
      .ok ⟨1, Genesis.LegacyState.sample⟩ :=
    Schema.Writes.ofJson (.inl rfl) Genesis.unambiguous_legacy
  rw [hsample] at hlegacy
  cases hlegacy
  have hroot : ∀ root, sampleSettings.rootPath = some root →
      ∃ answer, memory.Reads root sampleFiles answer ∧ memory.Reads root after answer := by
    intro root h
    cases h
    cases hwrite
    exact ⟨.error .missing, memory_reads (by simp [sampleFiles]),
      memory_reads (by simp [sampleFiles])⟩
  exact ⟨⟨hreads, hkeeps, hrefused _ hdistant⟩, hold, _, after, hmigrate, hrun,
    congrArg Prod.fst hwritten, hkeepers _, hsettings sampleSettings hroot, hagain "old.json"⟩

end Tool
end EnclaveRegistry
