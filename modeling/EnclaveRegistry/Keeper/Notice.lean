import EnclaveRegistry.Attestation.Identity
import EnclaveRegistry.Keeper.Error

/-! # The log

Every write is noticed in the log, with what it concerns. So is the refusal of a certificate where a
record is written or a state is loaded; a certificate that is refused when a node registers or a
network is founded is not.
-/
namespace EnclaveRegistry

inductive Level where
  | info
  | warn
  deriving DecidableEq, Inhabited

inductive Notice where
  | masterKeySet (type : MasterKeyType) (length : Nat)
  | registrationRefused (fingerprint : String) (error : AttestationError)
  | recordWritten (id : NodeId) (platform : Platform) (provisioned : Bool)
  | seedReturned (id : NodeId)
  | networkBootstrapped (id : NodeId)
  | genesisRecordRefused (index : Nat) (error : AttestationError)
  | genesisLoaded (records : Nat)
  | materialLoaded
  | materialServed (id : NodeId)
  deriving Inhabited

namespace Notice

def level : Notice → Level
  | registrationRefused _ _ => .warn
  | genesisRecordRefused _ _ => .warn
  | _ => .info

def text : Notice → String
  | masterKeySet _ _ => "マスター鍵を設定しました"
  | registrationRefused _ _ => "証明書の検証に失敗したため登録を拒否しました"
  | recordWritten _ _ _ => "ノード登録レコードを書き込みました"
  | seedReturned _ => "認証済みノードの再登録。保存済みシードを返します"
  | networkBootstrapped _ => "ネットワークをブートストラップしました"
  | genesisRecordRefused _ _ => "ジェネシスの登録レコードを検証できません"
  | genesisLoaded _ => "ジェネシス状態を読み込みました"
  | materialLoaded => "エンクレーブにシードとマスター鍵を読み込みました"
  | materialServed _ => "ブートストラップ入力を返却します"

def fields : Notice → List (String × String)
  | masterKeySet type length => [("key_type", type.tag), ("len", Decimal.text length)]
  | registrationRefused fingerprint error =>
    [("cert_fingerprint", fingerprint), ("error", error.message)]
  | recordWritten id platform provisioned =>
    [("node_id", id.toHex), ("tee_type", platform.name),
      ("provisioned", if provisioned then "true" else "false")]
  | seedReturned id => [("node_id", id.toHex)]
  | networkBootstrapped id => [("node_id", id.toHex)]
  | genesisRecordRefused index error =>
    [("index", Decimal.text index), ("error", error.message)]
  | genesisLoaded records => [("registrations", Decimal.text records)]
  | materialLoaded => []
  | materialServed id => [("node_id", id.toHex)]

end Notice
end EnclaveRegistry
