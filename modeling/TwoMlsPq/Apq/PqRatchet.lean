import TwoMlsPq.Apq.Combiner

/-!
# The post-quantum ratchet of one half

One ratchet round moves a fresh secret from the responder to the initiator
under an ephemeral KEM key, injects it as a PSK into a commit of the
post-quantum half, and exports the `apq` PSK that chains the new epoch into
the classical half.

A half runs against the shared services, so its operations carry the services
and the group together.  The injected secret is registered for the one commit
that consumes it and dropped on every way out.
-/

namespace TwoMlsPq
namespace Apq

open Foundation

structure HalfState (M : MlsRs) where
  services : Services
  group : M.Group

abbrev HalfOp (M : MlsRs) : Type -> Type :=
  Op (HalfState M) TwoMlsPqError

namespace HalfOp

variable {M : MlsRs} {α : Type}

def call (store : StoreId) (err : MlsError -> TwoMlsPqError)
    (f : MlsEnv -> M.Group -> Except MlsError α × M.Group) : HalfOp M α :=
  Op.ofResult fun h =>
    match f (h.services.env store) h.group with
    | (.ok a, g') => (.ok a, { h with group := g' })
    | (.error e, g') => (.error (err e), { h with group := g' })

def ofGroup (x : GroupOp M α) : HalfOp M α :=
  Op.ofResult fun h => ((x.run h.group).1, { h with group := (x.run h.group).2 })

def group : HalfOp M M.Group := do
  let h <- Op.state
  pure h.group

def mapGroup (f : M.Group -> M.Group) : HalfOp M Unit :=
  Op.update fun h => { h with group := f h.group }

def register (stores : List StoreId) (id : PskId) (psk : Bytes) : HalfOp M Unit :=
  Op.update fun h =>
    { h with
      services := { h.services with
        psks := h.services.psks.register stores id psk } }

def forget (stores : List StoreId) (id : PskId) : HalfOp M Unit :=
  Op.update fun h =>
    { h with
      services := { h.services with psks := h.services.psks.forget stores id } }

end HalfOp

/-!
## The ephemeral key and the injected secret
-/

structure PqEphemeral where
  dk : Bytes
  ek : Bytes
deriving DecidableEq, Repr

section

variable {M : MlsRs}

def generateEphemeral (seed : M.Seed) : Result PqEphemeral := do
  let (dk, ek) <- orError .mls (M.kemGenerate seed)
  .ok { dk := dk, ek := ek }

def injectedSecretLen : Nat :=
  32

/-- `germ.network.twomlspq.a3.ctSeal.key.v1` -/
def ctSealKeyInfo : Bytes :=
  [0x67, 0x65, 0x72, 0x6d, 0x2e, 0x6e, 0x65, 0x74, 0x77, 0x6f, 0x72, 0x6b, 0x2e,
    0x74, 0x77, 0x6f, 0x6d, 0x6c, 0x73, 0x70, 0x71, 0x2e, 0x61, 0x33, 0x2e, 0x63,
    0x74, 0x53, 0x65, 0x61, 0x6c, 0x2e, 0x6b, 0x65, 0x79, 0x2e, 0x76, 0x31]

variable (M) in
def ctSealKey (kemSs psk : Bytes) : Result Bytes := do
  let prk <- orError .mls (M.kdfExtract kemSs psk)
  orError .mls (M.kdfExpand prk ctSealKeyInfo M.aeadKeySize)

def encodeCt (enc sealed : Bytes) : Bytes :=
  leU32 enc.length ++ enc ++ sealed

def leU32Value (b0 b1 b2 b3 : UInt8) : Nat :=
  b0.toNat + b1.toNat * 2 ^ 8 + b2.toNat * 2 ^ 16 + b3.toNat * 2 ^ 24

def decodeCt : Bytes -> Result (Bytes × Bytes)
  | b0 :: b1 :: b2 :: b3 :: rest =>
      let encLen := leU32Value b0 b1 b2 b3
      if encLen <= rest.length then .ok (rest.take encLen, rest.drop encLen)
      else .error .mls
  | _ => .error .mls

def zeroNonce (M : MlsRs) : Bytes :=
  List.replicate M.aeadNonceSize 0

def sealInjectedSecret (ek psk : Bytes) (rnd : Nat -> M.Seed) :
    Result (Bytes × Bytes) := do
  let (sharedSecret, enc) <- orError .mls (M.kemEncap (rnd 0) ek)
  let key <- ctSealKey M sharedSecret psk
  let s <- orError .mls (M.randomBytes injectedSecretLen (rnd 1))
  let sealed <- orError .mls (M.aeadSeal key s (zeroNonce M))
  .ok (s, encodeCt enc sealed)

variable (M) in
def openInjectedSecret (eph : PqEphemeral) (wireCt psk : Bytes) : Result Bytes := do
  let (enc, sealed) <- decodeCt wireCt
  let kemSs <- orError .mls (M.kemDecap enc eph.dk eph.ek)
  let key <- ctSealKey M kemSs psk
  orError .mls (M.aeadOpen key sealed (zeroNonce M))

/-!
## Injecting and applying
-/

def injectedPskId (g : M.Group) : PskId :=
  .injected (M.currentEpoch g) (M.groupId g)

/-- Build the commit, apply it, and refuse a roster that is not two-party. -/
def buildAndApply (store : StoreId)
    (request : CommitRequest M.Message M.Signer) (seed : M.Seed) :
    HalfOp M M.Message := do
  let out <-
    HalfOp.call store (fun _ => .mls) fun env => M.buildCommit env request seed
  HalfOp.call store (fun _ => .mls) fun env => M.applyPendingCommit env
  let g <- HalfOp.group
  Op.ofExcept (ensureTwoParty g)
  pure out.commitMessage

def injectAndCommit (store : StoreId) (stores : List StoreId) (s : Bytes)
    (attestation : ApqInfoUpdate) (seed : M.Seed) : HalfOp M (Blob M) := do
  let g <- HalfOp.group
  let id := injectedPskId g
  HalfOp.register stores id s
  let built <-
    Op.attempt
      (buildAndApply store
        { addMember := none
          psks := [id]
          customProposal := some attestation
          newSigningIdentity := none }
        seed)
  HalfOp.forget stores id
  let message <- Op.ofExcept built
  Op.ofExcept (orError .mls (Blob.ofMessage message))

def exportApqPsk (stores : List StoreId) : HalfOp M ExportedPsk := do
  let apqPsk <- HalfOp.ofGroup (exportPsk .apq)
  HalfOp.register stores apqPsk.storageId apqPsk.psk
  pure apqPsk

def processAttested (store : StoreId) (pqCommit : Blob M) :
    HalfOp M ApqInfoUpdate := do
  let message <- Op.ofOption pqCommit.parsed .mls
  let received <-
    HalfOp.call store (fun _ => .mls) fun env =>
      M.processIncomingMessage env message
  let attestation <-
    (match received with
      | .commit effect => Op.ofExcept (commitAttestation effect)
      | _ => Op.fail .apqInfoMismatch)
  let attestation <- Op.ofOption attestation .apqInfoMismatch
  let g <- HalfOp.group
  Op.ofExcept (ensureTwoParty g)
  pure attestation

def applyInjectedCommit (store : StoreId) (stores : List StoreId) (s : Bytes)
    (pqCommit : Blob M) : HalfOp M (ExportedPsk × ApqInfoUpdate) := do
  let g <- HalfOp.group
  let id := injectedPskId g
  HalfOp.register stores id s
  let applied <- Op.attempt (processAttested store pqCommit)
  HalfOp.forget stores id
  let attestation <- Op.ofExcept applied
  let apqPsk <- exportApqPsk stores
  pure (apqPsk, attestation)

end

end Apq
end TwoMlsPq
