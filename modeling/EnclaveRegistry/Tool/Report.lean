import EnclaveRegistry.Keeper.Start

/-! # Reports on genesis documents

A report tells what a registry would hold that starts from a document: which master keys are
defined, and which nodes are registered and have been handed a seed.
-/
namespace EnclaveRegistry.Tool

structure Report where
  version : UInt32
  masterKeys : List (MasterKeyType × Bool)
  nodes : List (NodeId × Bool)
  deriving DecidableEq, Inhabited

namespace Report

def ofLoaded (loaded : Loaded) : Except KeeperError Report := do
  let nodes := (← Query.entries loaded.store).map fun entry =>
    (entry.nodeId, entry.record.isProvisioned)
  let masterKeys := MasterKeyType.all.map fun type =>
    (type, Query.isMasterKeyDefined loaded.store type)
  return ⟨loaded.document.version, masterKeys, nodes⟩

def lines (report : Report) : List String :=
  s!"schema_version: {Decimal.text report.version.toNat}" ::
    (report.masterKeys.map fun key =>
      s!"master_key[{key.1.tag}]: " ++ if key.2 then "defined" else "unset") ++
    s!"registrations: {Decimal.text report.nodes.length}" ::
    report.nodes.map fun node =>
      s!"  {node.1.toHex} authenticated=" ++ if node.2 then "true" else "false"

def text (report : Report) : String :=
  String.join (report.lines.map fun line => line ++ "\n")

end Report

/-- The text of the report on a document of any schema. -/
def inspect (verifier : Verifier) (text : Bytes) : Except StartError String :=
  match Keeper.start ⟨verifier, .overwrite⟩ text with
  | .error error => .error error
  | .ok loaded =>
    match Report.ofLoaded loaded with
    | .ok report => .ok report.text
    | .error error => .error (.state error)

end EnclaveRegistry.Tool
