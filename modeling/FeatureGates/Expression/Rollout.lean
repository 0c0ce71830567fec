import FeatureGates.Number.Basic
import FeatureGates.Text.CodePoints

/-!
# Rollout buckets

An actor falls into one of 100,000 buckets by the CRC-32 of the feature's
name followed by the actor's id, and is in a rollout of `p` percent if the
bucket's number is below `1000 * p`. The same pair always falls into the
same bucket, whatever the percentage. A name or id with a surrogate among
its code points has no UTF-8 form and so no bucket.
-/

namespace FeatureGates

namespace Crc32

def polynomial : BitVec 32 := 0xEDB88320#32

/-- Divides out one bit, the lowest first. -/
def bitStep (crc : BitVec 32) : BitVec 32 :=
  if crc.getLsbD 0 then (crc >>> 1) ^^^ polynomial else crc >>> 1

def bitSteps : Nat → BitVec 32 → BitVec 32
  | 0, crc => crc
  | n + 1, crc => bitSteps n (bitStep crc)

def byteStep (crc : BitVec 32) (byte : UInt8) : BitVec 32 :=
  bitSteps 8 (crc ^^^ BitVec.ofNat 32 byte.toNat)

/-- The CRC-32 of a sequence of bytes. -/
def ofBytes (bytes : List UInt8) : BitVec 32 :=
  ~~~(bytes.foldl byteStep 0xFFFFFFFF#32)

def ofUTF8 (bytes : ByteArray) : Nat := (ofBytes bytes.toList).toNat

end Crc32

namespace Rollout

/-- Buckets per percent: percentages count to three decimal places. -/
def bucketsPerPercent : Nat := 1000

def bucketCount : Nat := 100 * bucketsPerPercent

/-- The bucket of an actor under a feature. -/
def bucket (feature actor : CodePoints) : Except Failure Nat := do
  return Crc32.ofUTF8 (← (feature ++ actor).encode) % bucketCount

/-- The actor's bucket is among those that the percentage covers. -/
def includes (feature actor : CodePoints) (percentage : Number) : Except Failure Bool := do
  let own ← bucket feature actor
  let covered ← percentage.mul (.int bucketsPerPercent)
  return Number.lt (.int own) covered

/-- The bucket of two texts, which always have one. -/
def textBucket (feature actor : String) : Nat :=
  Crc32.ofUTF8 (feature ++ actor).toUTF8 % bucketCount

theorem textBucket_lt (feature actor : String) : textBucket feature actor < bucketCount :=
  Nat.mod_lt _ (by decide)

/-- Under a name without surrogates everyone has a bucket. -/
theorem bucket_of_isText {feature : CodePoints} (h : feature.isText = true) (actor : String) :
    bucket feature actor = .ok (textBucket feature.text actor) := by
  have told : feature ++ CodePoints.ofText actor = CodePoints.ofText (feature.text ++ actor) := by
    rw [CodePoints.ofText_append, ← CodePoints.eq_ofText h]
  unfold bucket
  rw [told, CodePoints.encode_ofText]
  rfl

/-- Under a name with surrogates no one has a bucket. -/
theorem bucket_of_not_isText {feature : CodePoints} (h : feature.isText = false)
    (actor : CodePoints) : bucket feature actor = .error (feature ++ actor).unencodable := by
  have untold : (feature ++ actor).isText = false := by
    rw [CodePoints.isText_append, h, Bool.false_and]
  unfold bucket
  rw [CodePoints.encode_of_not_isText untold]
  rfl

theorem includes_of_not_isText {feature : CodePoints} (h : feature.isText = false)
    (actor : CodePoints) (percentage : Number) :
    includes feature actor percentage = .error (feature ++ actor).unencodable := by
  unfold includes
  rw [bucket_of_not_isText h]
  rfl

end Rollout

end FeatureGates
