import EnclaveRegistry.Http.Message
import EnclaveRegistry.Keeper.Error

/-! # Refused requests

Why a request is not answered, with the status and the wording of the refusal.
-/
namespace EnclaveRegistry.Gateway

/-- Why a query string is refused. -/
inductive QueryFault where
  | emptyNumber
  | badDigit
  | tooLarge
  | duplicate
  deriving DecidableEq, Inhabited

def QueryFault.message : QueryFault → String
  | emptyNumber => "limit: cannot parse integer from empty string"
  | badDigit => "limit: invalid digit found in string"
  | tooLarge => "limit: number too large to fit in target type"
  | duplicate => "duplicate field `limit`"

inductive Refusal where
  | noSuchPath
  | methodNotAllowed (allowed : List String)
  | parameterNotText (name : String)
  | badQuery (fault : QueryFault)
  | notJson
  | badBody (failure : Schema.Failure)
  | badNodeId (error : Hex.Error)
  | badKeyType (name : String)
  | unknownNode (id : NodeId)
  | noEnclave
  | keeper (error : KeeperError)
  deriving Inhabited

def ofKeeperError (error : KeeperError) : Http.Response :=
  match error with
  | .invalidCertificate _ => .plain 400 error.message
  | .keyNotFound _ => .plain 404 error.message
  | .notAuthenticated id => .plain 403 ("未認証のノードです: " ++ id.toHex)
  | .alreadyDefined _ => .plain 409 ("競合: " ++ error.message)
  | .emptyCertificate _ => .plain 400 ("不正なリクエスト: " ++ error.message)
  | .enclave _ => .plain 500 ("内部エラー: " ++ error.message)
  | .badEntry _ => .plain 500 ("内部エラー: " ++ error.message)

def Refusal.response : Refusal → Http.Response
  | noSuchPath => .bare 404
  | methodNotAllowed allowed => ⟨405, none, some (",".intercalate allowed), []⟩
  | parameterNotText name => .plain 400 s!"Invalid URL: Invalid UTF-8 in `{name}`"
  | badQuery fault => .plain 400 ("Failed to deserialize query string: " ++ fault.message)
  | notJson => .plain 415 "Expected request with `Content-Type: application/json`"
  | badBody failure =>
    if failure.isFault then
      .plain 400 ("Failed to parse the request body as JSON: " ++ failure.located)
    else
      .plain 422 ("Failed to deserialize the JSON body into the target type: " ++ failure.located)
  | badNodeId error => .plain 400 ("不正なリクエスト: node_idが不正です: " ++ error.message)
  | badKeyType name => .plain 400 ("不正なリクエスト: " ++ MasterKeyType.unknownMessage name)
  | unknownNode id => .plain 404 ("見つかりません: ノード " ++ id.toHex)
  | noEnclave => .plain 503 "エンクレーブが利用できません"
  | keeper error => ofKeeperError error

end EnclaveRegistry.Gateway
