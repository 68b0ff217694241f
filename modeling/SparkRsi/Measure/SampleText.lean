import SparkRsi.Canary.Records
import SparkRsi.Measure.Records

set_option autoImplicit false

namespace SparkRsi.Measure

open Shared
open Canary (optionJson textOf optionTextOf wordOf versionOf)

def StageOutcome.toText : StageOutcome → String
  | ok => "ok"
  | refused => "refused"
  | failed => "failed"

def optionNum : Option UInt64 → Json
  | none => .null
  | some n => .num n.toNat

-- A sample without a protocol version has no such field.
def StageSample.json (sample : StageSample) : Json :=
  .obj ([("stage", .str sample.stage.id), ("duration_us", .num sample.durationUs.toNat),
    ("outcome", .str sample.outcome.toText)] ++
    match sample.canaryProtocolVersion with
    | none => []
    | some version => [("canary_protocol_version", .num version.toNat)])

def ExecutionConfig.json (config : ExecutionConfig) : Json :=
  .obj [("model_url", .str config.modelUrl), ("holdouts_dir", .str config.holdoutsDir),
    ("canary_target", .num config.canaryTarget.toNat), ("cortex_url", .str config.cortexUrl),
    ("cortex_space", .str config.cortexSpace), ("ratify_roots", .arr (config.ratifyRoots.map .str))]

def ExecutionProfile.json (profile : ExecutionProfile) : Json :=
  .obj [("model", .str profile.model), ("execution_config", profile.executionConfig.json),
    ("cpu_count", optionNum profile.cpuCount), ("memory_total_kib", optionNum profile.memoryTotalKib),
    ("gpu", .str profile.gpu)]

namespace CycleSampleRecord

variable (record : CycleSampleRecord)

def fields : List (String × Json) :=
  [("schema_version", .num record.schemaVersion.toNat), ("cycle_id", .str record.cycleId),
    ("workload_key", .str record.workloadKey),
    ("execution_profile_fingerprint", .str record.executionProfileFingerprint),
    ("execution_profile", record.executionProfile.json), ("stages", .arr (record.stages.map StageSample.json)),
    ("source_commit", optionJson record.sourceCommit), ("recorded_at", .str record.recordedAt)]

def json : Json := .obj record.fields

def text : String := String.ofList record.json.print

def line : Bytes := utf8 record.text ++ [10]

theorem newline_notMem_text : '\n' ∉ record.text.toList := by
  rw [text, String.toList_ofList]
  exact Json.print_no_newline _

theorem getLast?_text : record.text.toList.getLast? ≠ some '\r' := by
  have closed : record.json.print = '{' :: Json.commaSeparated (Json.printFields record.fields) ++ ['}'] :=
    rfl
  rw [text, String.toList_ofList, closed, List.getLast?_concat]
  decide

theorem newline_notMem_utf8 : 10 ∉ utf8 record.text := by
  intro member
  exact record.newline_notMem_text (low_utf8 _ _ member (by decide))

theorem line_ne_nil : record.line ≠ [] := List.append_ne_nil_of_right_ne_nil _ (List.cons_ne_nil _ _)

end CycleSampleRecord

structure SampleCrates where
  fromStr : String → Except String CycleSampleRecord
  fromStr_text : ∀ record : CycleSampleRecord, fromStr record.text = .ok record
  debug : String → String
  utf8Error : Bytes → String

section Standard

def stageOf : Json → Option Stage
  | .str "Observe" => some .observe
  | .str "Propose" => some .propose
  | .str "BuildJail" => some .buildJail
  | .str "JudgeEvaluation" => some .judgeEvaluation
  | .str "SupervisorCanary" => some .supervisorCanary
  | .str "CortexCommit" => some .cortexCommit
  | _ => none

def outcomeOf : Json → Option StageOutcome
  | .str "ok" => some .ok
  | .str "refused" => some .refused
  | .str "failed" => some .failed
  | _ => none

def itemsOf : Json → Option (List Json)
  | .arr items => some items
  | _ => none

def optionNumOf : Json → Option (Option UInt64)
  | .null => some none
  | .num n => some (some (UInt64.ofNat n))
  | _ => none

def schemaOf : Json → Option UInt32
  | .num n => some (UInt32.ofNat n)
  | _ => none

def sampleOf (value : Json) : Option StageSample := do
  return {
    stage := ← (← value.field "stage") |> stageOf
    durationUs := ← (← value.field "duration_us") |> wordOf
    outcome := ← (← value.field "outcome") |> outcomeOf
    canaryProtocolVersion := ← match value.field "canary_protocol_version" with
      | none => some none
      | some version => (versionOf version).map some }

def configOf (value : Json) : Option ExecutionConfig := do
  return {
    modelUrl := ← (← value.field "model_url") |> textOf
    holdoutsDir := ← (← value.field "holdouts_dir") |> textOf
    canaryTarget := ← (← value.field "canary_target") |> wordOf
    cortexUrl := ← (← value.field "cortex_url") |> textOf
    cortexSpace := ← (← value.field "cortex_space") |> textOf
    ratifyRoots := ← (← (← value.field "ratify_roots") |> itemsOf).mapM textOf }

def profileOf (value : Json) : Option ExecutionProfile := do
  return {
    model := ← (← value.field "model") |> textOf
    executionConfig := ← (← value.field "execution_config") |> configOf
    cpuCount := ← (← value.field "cpu_count") |> optionNumOf
    memoryTotalKib := ← (← value.field "memory_total_kib") |> optionNumOf
    gpu := ← (← value.field "gpu") |> textOf }

def recordOf (value : Json) : Option CycleSampleRecord := do
  return {
    schemaVersion := ← (← value.field "schema_version") |> schemaOf
    cycleId := ← (← value.field "cycle_id") |> textOf
    workloadKey := ← (← value.field "workload_key") |> textOf
    executionProfileFingerprint := ← (← value.field "execution_profile_fingerprint") |> textOf
    executionProfile := ← (← value.field "execution_profile") |> profileOf
    stages := ← (← (← value.field "stages") |> itemsOf).mapM sampleOf
    sourceCommit := ← (← value.field "source_commit") |> optionTextOf
    recordedAt := ← (← value.field "recorded_at") |> textOf }

theorem mapM_json {α : Type} {json : α → Json} {read : Json → Option α} (back : ∀ a, read (json a) = some a)
    (values : List α) : (values.map json).mapM read = some values := by
  induction values with
  | nil => rfl
  | cons value rest ih =>
    rw [List.map_cons, List.mapM_cons, back, ih]
    rfl

@[simp] theorem stageOf_id (stage : Stage) : stageOf (.str stage.id) = some stage := by cases stage <;> rfl

@[simp] theorem outcomeOf_toText (outcome : StageOutcome) :
    outcomeOf (.str outcome.toText) = some outcome := by
  cases outcome <;> rfl

@[simp] theorem optionNumOf_optionNum (n : Option UInt64) : optionNumOf (optionNum n) = some n := by
  cases n <;> simp [optionNum, optionNumOf]

theorem sampleOf_json (sample : StageSample) : sampleOf sample.json = some sample := by
  cases version : sample.canaryProtocolVersion <;>
    simp [sampleOf, StageSample.json, Json.field, List.lookup_cons, List.lookup_nil, version, wordOf,
      versionOf] <;>
    rw [← version]

theorem configOf_json (config : ExecutionConfig) : configOf config.json = some config := by
  simp [configOf, ExecutionConfig.json, Json.field, List.lookup_cons, textOf, wordOf, itemsOf,
    @mapM_json _ Json.str textOf fun _ => rfl]

theorem profileOf_json (profile : ExecutionProfile) : profileOf profile.json = some profile := by
  simp [profileOf, ExecutionProfile.json, Json.field, List.lookup_cons, textOf, configOf_json]

theorem recordOf_json (record : CycleSampleRecord) : recordOf record.json = some record := by
  simp [recordOf, CycleSampleRecord.json, CycleSampleRecord.fields, Json.field, List.lookup_cons, textOf,
    schemaOf, itemsOf, profileOf_json, mapM_json sampleOf_json]

def standardSampleCrates : SampleCrates where
  fromStr text := okOr "invalid record" (do recordOf (← Json.parse text))
  fromStr_text record := by
    simp [CycleSampleRecord.text, Json.parse_print, recordOf_json, okOr]
  debug path := s!"\"{path}\""
  utf8Error _ := "invalid utf-8"

end Standard

end SparkRsi.Measure
