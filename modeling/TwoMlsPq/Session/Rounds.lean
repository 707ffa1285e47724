import TwoMlsPq.Session.Messaging

/-!
# Opening and re-minting post-quantum rounds

The frames of an A.4 round ride application messages of the classical groups,
so an undelivered leg is minted again whenever the send epoch moves.  A send
opens the next round when it is our turn and nothing else is in flight.
-/

namespace TwoMlsPq
namespace Session

open Foundation Apq

section

variable {M : MlsRs}

def pqEkTag : UInt8 :=
  0x17

def pqCtTag : UInt8 :=
  0x19

def legTag : PqFrameKind -> UInt8
  | .ratchetEphemeralKey => pqEkTag
  | _ => pqCtTag

def encodeA4LegContent (innerTag : UInt8) (payload : Bytes) : Bytes :=
  innerTag :: payload

inductive LegCarrier where
  | classical
  | pq
deriving DecidableEq, Repr

def legCarrier (cg : CombinerGroup M) (message : M.Message) : Option LegCarrier :=
  match M.messageGroupId message with
  | none => none
  | some id =>
      if id = M.groupId cg.classical then some .classical
      else
        match cg.pq with
        | some pq => if id = M.groupId pq then some .pq else none
        | none => none

def declaredContentType (message : M.Message) : Option ContentType :=
  match M.description message with
  | .privateProtocolMessage contentType => some contentType
  | .publicProtocolMessage contentType => some contentType
  | .other => none

/-- Open an A.4 leg on the half it was encrypted for.  The gate on the declared
content type keeps a commit or a proposal out of the group. -/
def processA4Leg (h : Half) (innerTag : UInt8) (message : M.Message) :
    SessionOp M Bytes := do
  Op.ensure
    (M.description message = .privateProtocolMessage .application)
    .decryptionFailed
  let g <- readHalf h .sessionNotReady
  let received <-
    callHalf h .sessionNotReady mapAppMessageErr fun env =>
      M.processIncomingMessage env message
  match received with
  | .applicationMessage senderIndex data => do
      Op.ensure (senderIndex ≠ M.currentMemberIndex g) .decryptionFailed
      match data with
      | tag :: payload => do
          Op.ensure (tag = innerTag) .decryptionFailed
          pure payload
      | [] => Op.fail .decryptionFailed
  | _ => Op.fail .decryptionFailed

def mintLeg (kind : PqFrameKind) (payload : Bytes) (seed : M.Seed) :
    SessionOp M (SideBand M) := do
  let message <-
    callHalf .sendClassical .sessionNotReady (fun _ => .mls) fun _ =>
      M.encryptApplicationMessage (encodeA4LegContent (legTag kind) payload) []
        seed
  let body <- Op.ofExcept (orError .mls (Blob.ofMessage message))
  pure { kind := kind, body := body }

def retainUnsealed (frame : SideBand M) (r : RoundState M) : RoundState M :=
  { r with pendingSideBand := some { frame := frame, sealedAt := none } }

def stageRatchet (rnd : Nat -> M.Seed) : SessionOp M Unit := do
  let eph <- Op.ofExcept (generateEphemeral (rnd 0))
  let frame <- mintLeg .ratchetEphemeralKey eph.ek (rnd 1)
  Op.update fun s => s.mapRound fun r =>
    retainUnsealed frame { r with pqInflight := some (.initiating eph) }

/-- Open an A.5 round: propose our own update in the peer's post-quantum group,
moving the leaf to the session's identity when one is announced. -/
def stageRekey (rotating : Option Bytes) (seed : M.Seed) : SessionOp M Unit := do
  let s <- Op.state
  Op.ensure (rotating = none ∨ rotating = some s.client.clientId) .sessionNotReady
  let identity := rotating.map fun id => (s.client.pqSigner, id)
  let proposal <-
    callHalf .recvPq .sessionNotReady
      (fun e => if rotating.isSome then mapCredentialErr e else .mls)
      fun env => M.proposeUpdate env identity (rotating.getD []) seed
  let body <- Op.ofExcept (orError .mls (Blob.ofMessage proposal))
  Op.update fun s => s.mapRound fun r =>
    retainUnsealed { kind := .rekeyUpdate, body := body }
      { r with pqInflight := some .rekeyInitiated }

/-- The kind of the parked leg when its wrap has fallen behind the send epoch,
or when an ephemeral key still rides the post-quantum carrier. -/
def dueLeg (s : SessionInner M) : Option PqFrameKind :=
  match s.round.pendingSideBand, s.sendGroup with
  | some retained, some send =>
      if retained.frame.isRatchetLeg then
        match retained.frame.body.parsed with
        | none => none
        | some message =>
            match legCarrier send message with
            | some .classical =>
                match M.messageEpoch message with
                | some e =>
                    if e < M.currentEpoch send.classical then
                      some retained.frame.kind
                    else none
                | none => none
            | some .pq =>
                if retained.frame.kind = .ratchetEphemeralKey then
                  some retained.frame.kind
                else none
            | none => none
      else none
  | _, _ => none

def livePayload : Option PqInflight -> Option (PqFrameKind × Bytes)
  | some (.initiating eph) => some (.ratchetEphemeralKey, eph.ek)
  | some (.responding _ (some ct)) => some (.ratchetCiphertext, ct)
  | _ => none

def rewrapSideBand (seed : M.Seed) : SessionOp M Unit := do
  let s <- Op.state
  match dueLeg s, livePayload s.round.pqInflight with
  | some due, some (kind, payload) =>
      if kind = due then do
        let minted <- Op.attempt (mintLeg kind payload seed)
        match minted with
        | .ok frame => Op.update fun s => s.mapRound (retainUnsealed frame)
        | .error _ => pure ()
      else pure ()
  | _, _ => pure ()

def sendPqLeafLags (s : SessionInner M) : Bool :=
  match s.half .sendPq with
  | none => false
  | some pq =>
      match senderClientId pq (M.currentMemberIndex pq) with
      | .ok leaf => leaf != s.client.clientId
      | .error _ => false

def sideBandIdle (s : SessionInner M) : Bool :=
  s.round.pqTurnMine && s.pqHalvesLive && s.round.pqInflight.isNone &&
    s.round.owedBind.isNone && s.round.pendingSideBand.isNone &&
    s.round.pqWedged.isNone

/-- Open the next round, and say whether it was an A.5: only that one leaves
state in a post-quantum group. -/
def maybeStageNextRound (rnd : Nat -> M.Seed) : SessionOp M Bool := do
  let s <- Op.state
  if sideBandIdle s then
    if sendPqLeafLags s then do
      let staged <- Op.attempt (stageRekey (some s.client.clientId) (rnd 0))
      pure staged.isOk
    else do
      let _ <- Op.attempt (stageRatchet rnd)
      pure false
  else
    pure false

def retireStalePins (s : SessionInner M) : SessionInner M :=
  let halfIds (g : Option M.Group) : List Bytes :=
    match g with
    | none => []
    | some pq =>
        [senderClientId pq 0, senderClientId pq 1].filterMap fun r =>
          match r with
          | .ok id => some id
          | .error _ => none
  let carried := halfIds (s.half .sendPq) ++ halfIds (s.half .recvPq)
  let prune (q : PartySequence) : PartySequence :=
    (q.pinned.filter fun p => !carried.contains p).foldl PartySequence.unpin q
  s.withAuth fun core =>
    { core with mine := prune core.mine, theirs := prune core.theirs }

end

end Session
end TwoMlsPq
