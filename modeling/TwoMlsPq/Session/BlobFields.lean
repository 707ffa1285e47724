import TwoMlsPq.Session.Sound
import TwoMlsPq.Session.Restore

/-!
# The fields of a blob

What encoding writes and what decoding reads, field by field.  A restore takes all
its fields from one pushed blob; only the post-quantum halves under a Core come
from the Checkpoint beside it, and there the two agree on the epochs.
-/

namespace TwoMlsPq
namespace Session

open Foundation Apq

section

variable {M : MlsRs}

/-!
## Encoding
-/

/-- The fields of an archive are those of the session. -/
structure Pictures (s : SessionInner M) (a : Archive M) : Prop where
  stateSeq : a.wire.stateSeq = s.stateSeq
  sendPqEpoch : a.wire.sendPqEpoch = s.epoch .sendPq
  recvPqEpoch : a.wire.recvPqEpoch = s.epoch .recvPq
  client : a.wire.client = s.client
  authMine : a.wire.authMine = s.services.auth.mine
  authTheirs : a.wire.authTheirs = s.services.auth.theirs
  msg : a.wire.msg = archivedMsg s.msg
  rotation : a.wire.rotation = s.rotation
  round : a.wire.round = archivedRound s.round
  ledger : a.wire.ledger = archivedLedger s.ledger
  establishment : a.wire.establishment = s.establishment
  tail : a.tail = tailFrom s

def SameTail (s₀ s : SessionInner M) : Prop :=
  s.round = s₀.round ∧
    s.ledger.sendAttachmentLedger = s₀.ledger.sendAttachmentLedger ∧
      s.ledger.recvAttachmentLedger = s₀.ledger.recvAttachmentLedger

theorem SameTail.tail {s₀ s : SessionInner M} (h : SameTail s₀ s) :
    tailFrom s₀ = tailFrom s := by
  rcases h with ⟨hround, hsend, hrecv⟩
  unfold tailFrom
  rw [hround, hsend, hrecv]

theorem SameTail.refl (s : SessionInner M) : SameTail s s :=
  ⟨rfl, rfl, rfl⟩

theorem sameTail_ofTouches {α : Type} {s₀ : SessionInner M} {h : Half}
    {x : SessionOp M α} (hx : Touches [.half h] x) : Op.Keeps (SameTail s₀) x := by
  intro s hs
  have hround : (x.run s).2.round = s.round := hx s .round (by simp)
  have hledger : (x.run s).2.ledger = s.ledger := hx s .ledger (by simp)
  unfold SameTail
  rw [hround, hledger]
  exact hs

theorem sameTail_recordListenRendezvous (s₀ : SessionInner M) :
    Op.Keeps (SameTail s₀) (recordListenRendezvous : SessionOp M Unit) := by
  unfold recordListenRendezvous
  refine Op.Keeps.looking Op.Still.state fun s => ?_
  split
  · exact Op.Keeps.value _
  · dsimp only
    apply Op.Keeps.ite
    · exact Op.Keeps.value _
    refine Op.Keeps.looking (Op.Still.ofExcept _) fun secret => ?_
    refine Op.Keeps.looking (Op.Still.ofExcept _) fun header => ?_
    refine Op.Keeps.bind (Op.Keeps.update fun _ h => h) fun _ => ?_
    refine Op.Keeps.bind ?_ fun _ => ?_
    · exact sameTail_ofTouches (touches_callHalf _ _ _ _ List.mem_cons_self)
    refine Op.Keeps.looking (still_readHalf _ _) fun g => ?_
    exact Op.Keeps.update fun _ h => h

theorem sameTail_exportHalf (s₀ : SessionInner M) (h : Half) :
    Op.Keeps (SameTail s₀) (exportHalf h : SessionOp M M.GroupSnapshot) :=
  sameTail_ofTouches (touches_callHalf _ _ _ _ List.mem_cons_self)

theorem sameTail_exportPqHalf (s₀ : SessionInner M) (h : Half) (includePq : Bool) :
    Op.Keeps (SameTail s₀)
      (exportPqHalf h includePq : SessionOp M (Option M.GroupSnapshot)) := by
  unfold exportPqHalf
  refine Op.Keeps.looking Op.Still.state fun s => ?_
  apply Op.Keeps.ite
  · exact Op.Keeps.bind (sameTail_exportHalf s₀ h) fun _ => Op.Keeps.value _
  · exact Op.Keeps.value _

theorem sameTail_exportSend (s₀ : SessionInner M) (includePq : Bool) :
    Op.Keeps (SameTail s₀) (exportSend includePq : SessionOp M (GroupEntry M)) := by
  unfold exportSend
  refine Op.Keeps.bind (sameTail_exportHalf s₀ _) fun classical => ?_
  exact Op.Keeps.bind (sameTail_exportPqHalf s₀ _ _) fun pq => Op.Keeps.value _

theorem sameTail_exportRecv (s₀ : SessionInner M) (includePq : Bool) :
    Op.Keeps (SameTail s₀)
      (exportRecv includePq : SessionOp M (Option (GroupEntry M))) := by
  unfold exportRecv
  refine Op.Keeps.looking Op.Still.state fun s => ?_
  apply Op.Keeps.ite
  · exact Op.Keeps.value _
  · refine Op.Keeps.bind (sameTail_exportHalf s₀ _) fun classical => ?_
    exact Op.Keeps.bind (sameTail_exportPqHalf s₀ _ _) fun pq => Op.Keeps.value _

theorem buildArchiveWire_pictures {includePq : Bool} {s s' : SessionInner M}
    {wire : SessionArchive M}
    (h : (buildArchiveWire includePq).run s = (.ok wire, s')) :
    Pictures s' { wire := wire, tail := tailFrom s } := by
  unfold buildArchiveWire at h
  rcases Op.bind_ok h with ⟨_, s₁, hlisten, h⟩
  rcases Op.bind_ok h with ⟨send, s₂, hsend, h⟩
  rcases Op.bind_ok h with ⟨recv, s₃, hrecv, h⟩
  have h₁ := sameTail_recordListenRendezvous s s (SameTail.refl s)
  rw [hlisten] at h₁
  have h₂ := sameTail_exportSend s includePq s₁ h₁
  rw [hsend] at h₂
  have h₃ := sameTail_exportRecv s includePq s₂ h₂
  rw [hrecv] at h₃
  rw [Op.run_bind_ok (Op.run_state s₃)] at h
  cases h
  exact
    { stateSeq := rfl, sendPqEpoch := rfl, recvPqEpoch := rfl, client := rfl
      authMine := rfl, authTheirs := rfl, msg := rfl, rotation := rfl, round := rfl
      ledger := rfl, establishment := rfl, tail := h₃.tail }

theorem encodeBlob_pictures {kind : BlobKind} {s s' : SessionInner M} {a : Archive M}
    (h : (encodeBlob kind).run s = (.ok a, s')) : Pictures s' a := by
  unfold encodeBlob at h
  rw [Op.run_bind_ok (Op.run_state s)] at h
  rcases Op.bind_ok h with ⟨wire, s₁, hwire, h⟩
  cases h
  exact buildArchiveWire_pictures hwire

/-!
## Decoding
-/

structure Decoded (a : Archive M) (s : SessionInner M) : Prop where
  stateSeq : s.stateSeq = a.wire.stateSeq
  client : s.client = { a.wire.client with handle := 0 }
  auth : s.services.auth =
    { mine := a.wire.authMine, theirs := a.wire.authTheirs, adopting := false }
  msg : s.msg = { a.wire.msg with currentStapleSeq := a.wire.stateSeq }
  rotation : s.rotation =
    { a.wire.rotation with
      stagedCandidates := renumber 1 a.wire.rotation.stagedCandidates }
  inflight : inflightFromWire a.wire.round.pqInflight a.tail.responderWireCt =
    .ok s.round.pqInflight
  round : s.round =
    { a.wire.round with
      pqInflight := s.round.pqInflight
      bindApplyBroken := false
      pqWedged := a.tail.pqWedged }
  ledger : s.ledger =
    { a.wire.ledger with
      sendAttachmentLedger := a.tail.sendAttachmentLedger
      recvAttachmentLedger := a.tail.recvAttachmentLedger
      pskStores := s.client.stores
      pskStoresFrom := 0 }
  establishment : s.establishment = a.wire.establishment

theorem sessionFromWire_decoded {a : Archive M} {s : SessionInner M}
    (h : sessionFromWire a = .ok s) : Decoded a s := by
  unfold sessionFromWire at h
  dsimp only at h
  split at h
  next => cases h
  next =>
    cases hinflight : inflightFromWire a.wire.round.pqInflight a.tail.responderWireCt with
    | error e =>
        rw [hinflight] at h
        cases h
    | ok inflight =>
        rw [hinflight] at h
        change (do
          let sendGroup <- loadCombinerGroup _ a.wire.sendGroup
          _ : Result (SessionInner M)) = _ at h
        cases hsend : loadCombinerGroup { a.wire.client with handle := 0 }
            a.wire.sendGroup with
        | error e =>
            rw [hsend] at h
            cases h
        | ok send =>
            rw [hsend] at h
            change (do
              let recvGroup <- loadRecv _ a.wire.recvGroup
              _ : Result (SessionInner M)) = _ at h
            cases hrecv : loadRecv { a.wire.client with handle := 0 }
                a.wire.recvGroup with
            | error e =>
                rw [hrecv] at h
                cases h
            | ok recv =>
                rw [hrecv] at h
                change (if _ then _ else _) = _ at h
                split at h
                next => cases h
                next =>
                  cases h
                  exact
                    { stateSeq := rfl, client := rfl, auth := rfl, msg := rfl
                      rotation := rfl, inflight := hinflight, round := rfl
                      ledger := rfl, establishment := rfl }

/-!
## Reborn sessions
-/

/-- A session opened from a picture of another: only what lives in memory alone is
lost. -/
structure Reborn (s₀ s : SessionInner M) : Prop where
  epoch : forall h, s.epoch h = s₀.epoch h
  classical : forall h, h.isPq = false -> HalfQuiet (s₀.half h) (s.half h)
  stateSeq : s.stateSeq = s₀.stateSeq
  client : s.client = { s₀.client with handle := 0 }
  auth : s.services.auth = { s₀.services.auth with adopting := false }
  msg : s.msg = { s₀.msg with currentStapleSeq := s₀.stateSeq }
  rotation : s.rotation =
    { s₀.rotation with stagedCandidates := renumber 1 s₀.rotation.stagedCandidates }
  round : s.round =
    { s₀.round with
      pendingSideBand :=
        s₀.round.pendingSideBand.map fun f => { f with sealedAt := none }
      bindApplyBroken := false }
  ledger : s.ledger =
    { s₀.ledger with pskStores := s.client.stores, pskStoresFrom := 0 }
  establishment : s.establishment = s₀.establishment

theorem Reborn.ofPictures {s₀ s : SessionInner M} {a : Archive M}
    (hpictures : Pictures s₀ a) (hdecoded : Decoded a s)
    (hepoch : forall h, s.epoch h = s₀.epoch h)
    (hclassical : forall h, h.isPq = false -> HalfQuiet (s₀.half h) (s.half h)) :
    Reborn s₀ s := by
  have hinflight : s.round.pqInflight = s₀.round.pqInflight := by
    have harchived := inflightFromWire_archived s₀.round.pqInflight
    have hread := hdecoded.inflight
    rw [hpictures.round, hpictures.tail] at hread
    unfold tailFrom archivedRound at hread
    exact Except.ok.inj (hread.symm.trans harchived)
  refine
    { epoch := hepoch
      classical := hclassical
      stateSeq := hdecoded.stateSeq.trans hpictures.stateSeq
      client := ?_
      auth := ?_
      msg := ?_
      rotation := ?_
      round := ?_
      ledger := ?_
      establishment := hdecoded.establishment.trans hpictures.establishment }
  · rw [hdecoded.client, hpictures.client]
  · rw [hdecoded.auth, hpictures.authMine, hpictures.authTheirs]
  · rw [hdecoded.msg, hpictures.msg, hpictures.stateSeq]
    rfl
  · rw [hdecoded.rotation, hpictures.rotation]
  · rw [hdecoded.round, hinflight, hpictures.round, hpictures.tail]
    rfl
  · rw [hdecoded.ledger, hpictures.ledger, hpictures.tail]
    rfl

/-- A blob pictures a session that has the fact. -/
def Photo (I : SessionInner M -> Prop) (p : Push M) : Prop :=
  exists s₀, I s₀ ∧ s₀.stateSeq = p.seq ∧ Pictures s₀ p.archive ∧
    Archived p.kind s₀.core p.archive

theorem HalfQuiet.epochs {o o' : Option M.Group} (h : HalfQuiet o o') :
    o'.map M.currentEpoch = o.map M.currentEpoch := by
  cases o with
  | none =>
      cases o' with
      | none => rfl
      | some g' => exact h.elim
  | some g =>
      cases o' with
      | none => exact h.elim
      | some g' => exact congrArg some (Undisturbed.epoch h)

section

variable (L : Lawful M)
include L

theorem encodeBlob_archived {kind : BlobKind} {s s' : SessionInner M} {a : Archive M}
    (h : (encodeBlob kind).run s = (.ok a, s')) : Archived kind s'.core a := by
  have hvia := via_encodeBlob L (A := fun e => e = Event.quiet) (p := fun _ => True) rfl
    (fun _ _ _ _ => True.intro) kind
  have hresult := hvia.result (s := s) True.intro (a := a) (by rw [h])
  rw [h] at hresult
  exact hresult.1

theorem opened_reborn {s₀ s : SessionInner M} {a : Archive M}
    (hpictures : Pictures s₀ a) (harchived : Archived .checkpoint s₀.core a)
    (h : sessionFromWire a = .ok s) : Reborn s₀ s := by
  have hrestored := sessionFromWire_restored L harchived h
  exact Reborn.ofPictures hpictures (sessionFromWire_decoded h)
    (fun half => (hrestored.1 half).epochs) fun half _ => hrestored.1 half

theorem merged_reborn {s₀ s₁ s : SessionInner M} {a b : Archive M}
    {recv : Option (GroupEntry M)}
    (hpictures : Pictures s₀ a) (harchived : Archived .core s₀.core a)
    (hother : Archived .checkpoint s₁.core b)
    (sendPq : a.wire.sendPqEpoch = b.wire.sendPqEpoch)
    (recvPq : a.wire.recvPqEpoch = b.wire.recvPqEpoch)
    (merged : mergeRecv a.wire.recvGroup b.wire.recvGroup = .ok recv)
    (h : sessionFromWire
      { a with
        wire := { a.wire with
          sendGroup := { a.wire.sendGroup with pq := b.wire.sendGroup.pq }
          recvGroup := recv } } = .ok s) :
    Reborn s₀ s := by
  have hrestored := sessionFromWire_restored L
    (archived_merge harchived hother sendPq recvPq merged) h
  have hepoch : forall half, s.epoch half = (s₀.core.splice s₁.core).epoch half :=
    fun half => (hrestored.1 half).epochs
  refine Reborn.ofPictures ?_ (sessionFromWire_decoded h) ?_ ?_
  · exact { hpictures with }
  · intro half
    rw [hepoch half]
    cases half with
    | sendClassical => rfl
    | recvClassical => rfl
    | sendPq =>
        change s₁.core.epoch .sendPq = s₀.core.epoch .sendPq
        rw [<- hother.sendPqEpoch, <- harchived.sendPqEpoch, sendPq]
    | recvPq =>
        change s₁.core.epoch .recvPq = s₀.core.epoch .recvPq
        rw [<- hother.recvPqEpoch, <- harchived.recvPqEpoch, recvPq]
  · intro half hpq
    have hquiet := hrestored.1 half
    cases half with
    | sendClassical => exact hquiet
    | recvClassical => exact hquiet
    | sendPq => cases hpq
    | recvPq => cases hpq

/-- What is restored from pushed pictures is one of the pictured sessions. -/
theorem restore_reborn {I : SessionInner M -> Prop} {pushed : List (Push M)}
    {s : SessionInner M} (hphotos : forall p, p ∈ pushed -> Photo I p)
    (h : restore pushed = .ok s) :
    exists p s₀, p ∈ pushed ∧ I s₀ ∧ s₀.stateSeq = p.seq ∧ Reborn s₀ s := by
  unfold restore restoreInner at h
  cases hrec : reconcilePersisted (latest .core pushed) (latest .checkpoint pushed) with
  | error e =>
      rw [hrec] at h
      cases h
  | ok a =>
      rw [hrec] at h
      unfold reconcilePersisted at hrec
      split at hrec
      next => cases hrec
      next ck hck _ =>
        cases hrec
        rcases latest_mem hck with ⟨p, hmem, hkind, rfl⟩
        rcases hphotos p hmem with ⟨s₀, hI, hseq, hpictures, harchived⟩
        rw [hkind] at harchived
        exact ⟨p, s₀, hmem, hI, hseq, opened_reborn L hpictures harchived h⟩
      next ck newer hck hcore =>
        rcases latest_mem hck with ⟨q, hmemq, hkindq, rfl⟩
        rcases hphotos q hmemq with ⟨s₁, hI₁, hseq₁, hpictures₁, harchived₁⟩
        rw [hkindq] at harchived₁
        split at hrec
        next =>
          cases hrec
          exact ⟨q, s₁, hmemq, hI₁, hseq₁, opened_reborn L hpictures₁ harchived₁ h⟩
        next =>
          rcases latest_mem hcore with ⟨p, hmem, hkind, rfl⟩
          rcases hphotos p hmem with ⟨s₀, hI, hseq, hpictures, harchived⟩
          rw [hkind] at harchived
          split at hrec
          next => cases hrec
          next hmanifest =>
            push Not at hmanifest
            cases hmerged : mergeRecv p.archive.wire.recvGroup
                q.archive.wire.recvGroup with
            | error e =>
                rw [hmerged] at hrec
                cases hrec
            | ok recv =>
                rw [hmerged] at hrec
                cases hrec
                exact ⟨p, s₀, hmem, hI, hseq, merged_reborn L hpictures harchived
                  harchived₁ hmanifest.1 hmanifest.2 hmerged h⟩

end

end

end Session
end TwoMlsPq
