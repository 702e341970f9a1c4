import EnclaveRegistry.Schema.Failure

/-! # Why a certificate is refused

A certificate may be unreadable at several depths, may lack something, or may fail a signature.
Callers treat all of these alike; the wording is for the log.
-/
namespace EnclaveRegistry

/-- Why one certificate is not issued under the key of another. -/
inductive LinkFault where
  | badKey
  | badSignatureForm
  | badSignature
  deriving DecidableEq, Inhabited

/-- Where a chain of certificates breaks. -/
inductive ChainFault where
  | link (index : Nat) (fault : LinkFault)
  | root (fault : LinkFault)
  deriving DecidableEq, Inhabited

inductive CertificateFault where
  | unreadable (index : Nat)
  | leafKey
  deriving DecidableEq, Inhabited

inductive MalformedCause where
  | unreadable (failure : Schema.Failure)
  | otherModule (id : String)
  | keyLength
  | keyNotOnCurve
  deriving Inhabited

inductive AttestationError where
  | unsupportedPlatform (name : String)
  | envelopeUnreadable
  | payloadUnreadable
  | chainBroken (fault : ChainFault)
  | badSignature
  | missingField (name : String)
  | certificateUnreadable (fault : CertificateFault)
  | malformed (cause : MalformedCause)
  deriving Inhabited

def LinkFault.message : LinkFault → String
  | badKey => "P-384公開鍵のパースに失敗: signature error"
  | badSignatureForm => "ECDSA署名のデコードに失敗: signature error"
  | badSignature => "署名検証に失敗: signature error"

def ChainFault.message : ChainFault → String
  | link index fault =>
    let child := Decimal.text index
    let parent := Decimal.text (index + 1)
    s!"証明書[{child}]→[{parent}]の検証失敗: {fault.message}"
  | root fault => "ルート証明書の自己署名検証失敗: " ++ fault.message

def CertificateFault.message : CertificateFault → String
  | unreadable index => s!"chain[{Decimal.text index}]"
  | leafKey => LinkFault.badKey.message

def MalformedCause.message : MalformedCause → String
  | unreadable failure => failure.message
  | otherModule id => "module_idが不正です: " ++ id
  | keyLength => "公開鍵は32バイトである必要があります"
  | keyNotOnCurve => "signature error: Cannot decompress Edwards point"

def AttestationError.message : AttestationError → String
  | unsupportedPlatform name => "未対応のTEE種別: " ++ name
  | envelopeUnreadable => "COSE Sign1のパースに失敗"
  | payloadUnreadable => "CBORペイロードのパースに失敗"
  | chainBroken fault => "証明書チェーンの検証に失敗: " ++ fault.message
  | badSignature => "署名検証に失敗"
  | missingField name => "必須フィールドが見つかりません: " ++ name
  | certificateUnreadable fault => "証明書のパースに失敗: " ++ fault.message
  | malformed cause => "証明書の形式が不正です: " ++ cause.message

end EnclaveRegistry
