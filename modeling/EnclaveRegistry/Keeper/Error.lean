import EnclaveRegistry.Attestation.Error
import EnclaveRegistry.Decimal.Natural
import EnclaveRegistry.Node.Id
import EnclaveRegistry.Node.MasterKey
import EnclaveRegistry.Schema.Record

/-! # Why an operation fails

An operation that fails leaves the store as it was.
-/
namespace EnclaveRegistry

inductive EnclaveError where
  | seedRejected (reason : String)
  | callFailed (reason : String)
  deriving DecidableEq, Inhabited

/-- What is wrong with a stored entry: its value, or that it stands outside the records. -/
inductive EntryFault where
  | value (fault : Schema.RecordFault)
  | foreignKey
  deriving DecidableEq, Inhabited

inductive KeeperError where
  | invalidCertificate (error : AttestationError)
  | alreadyDefined (type : MasterKeyType)
  | keyNotFound (type : MasterKeyType)
  | notAuthenticated (id : NodeId)
  | enclave (error : EnclaveError)
  | badEntry (fault : EntryFault)
  | emptyCertificate (index : Nat)
  deriving Inhabited

def EnclaveError.message : EnclaveError → String
  | seedRejected reason => "シードの読み込みを拒否されました: " ++ reason
  | callFailed reason => "エンクレーブ呼び出しに失敗: " ++ reason

def EntryFault.message : EntryFault → String
  | value fault => fault.message
  | foreignKey => "登録名前空間外のキーが返されました"

def MasterKeyType.missingName (type : MasterKeyType) : String := "マスター鍵 " ++ type.tag

def KeeperError.message : KeeperError → String
  | invalidCertificate error => "不正な証明書: " ++ error.message
  | alreadyDefined type => s!"マスター鍵 {type.tag} は既に設定されています"
  | keyNotFound type => "見つかりません: " ++ type.missingName
  | notAuthenticated id => s!"ノード {id.toHex} は認証されていません"
  | enclave error => "エンクレーブ呼び出しに失敗: " ++ error.message
  | badEntry fault => "レコードのコーデックエラー: " ++ fault.message
  | emptyCertificate index =>
    s!"ジェネシス状態が不正です: 登録レコード[{Decimal.text index}]の証明書が空です"

end EnclaveRegistry
