import Tacacs.Types

/-!
# `crypto/` — body obfuscation and the unencrypted flag

MD5 is a parameter: the pad only needs that a digest has sixteen bytes, and an `Md5` carries
that with it, which is also what makes `pseudoPad` terminate.
-/

set_option autoImplicit false

namespace Tacacs
namespace Crypto

open GoSem

/-! ## The flag policy -/

/-- `crypto.Policy`: whether `TAC_PLUS_UNENCRYPTED_FLAG` is accepted. -/
structure Policy where
  allowUnencrypted : Bool
deriving DecidableEq, Repr

def Policy.checkUnencryptedFlag (p : Policy) (flagSet : Bool) : Except GoError Unit :=
  if flagSet && !p.allowUnencrypted then
    .error (validationError "flags" "unencrypted flag set but not allowed" .unencryptedDisabled)
  else .ok ()

/-! ## Obfuscation -/

def md5DigestSize : Nat := 16

/-- A digest function with MD5's output size. -/
structure Md5 where
  sum : Bytes → Bytes
  length_sum : ∀ b, (sum b).length = md5DigestSize

/-- Some digest, for connections that have no use for one. -/
instance : Inhabited Md5 := ⟨⟨fun _ => List.replicate md5DigestSize 0, fun _ => by simp⟩⟩

/-- The loop of `pseudoPad`. `prev` is empty in the first round, where the source has `nil`. -/
def padLoop (md5 : Md5) (base : Bytes) (n : Nat) (pad prev : Bytes) : Bytes :=
  if pad.length < n then
    let digest := md5.sum (base ++ prev)
    let remaining := min (n - pad.length) md5DigestSize
    padLoop md5 base n (pad ++ digest.take remaining) digest
  else pad
termination_by n - pad.length
decreasing_by
  have hd := md5.length_sum (base ++ prev)
  simp only [List.length_append, List.length_take, hd, md5DigestSize]
  omega

def pseudoPad (md5 : Md5) (body key : Bytes) (sessionID : UInt32) (version seqNo : UInt8) :
    Bytes :=
  let n := body.length
  if n = 0 then []
  else
    let base := be32Bytes sessionID ++ key ++ [version, seqNo]
    padLoop md5 base n [] []

/-- `body[i] ^= pad[i]` for every `i`. -/
def xorPad (md5 : Md5) (body key : Bytes) (sessionID : UInt32) (version seqNo : UInt8) :
    Bytes :=
  List.zipWith (· ^^^ ·) body (pseudoPad md5 body key sessionID version seqNo)

def obfuscate (md5 : Md5) (body key : Bytes) (sessionID : UInt32) (version seqNo : UInt8) :
    Bytes :=
  if body.length = 0 then [] else xorPad md5 body key sessionID version seqNo

def deobfuscate (md5 : Md5) (body key : Bytes) (sessionID : UInt32) (version seqNo : UInt8) :
    Bytes :=
  obfuscate md5 body key sessionID version seqNo

/-- The operations in place: the buffer as they leave it. -/
def obfuscateInPlace (md5 : Md5) (body key : Bytes) (sessionID : UInt32)
    (version seqNo : UInt8) : Bytes :=
  xorPad md5 body key sessionID version seqNo

def deobfuscateInPlace (md5 : Md5) (body key : Bytes) (sessionID : UInt32)
    (version seqNo : UInt8) : Bytes :=
  xorPad md5 body key sessionID version seqNo

end Crypto
end Tacacs
