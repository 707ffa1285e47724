import TwoMlsPq.Session.Via

/-!
# What a blob holds and what a restore brings back

A blob is a picture of the core at the moment it was encoded: all its slots,
the classical halves, and in a Checkpoint the post-quantum halves too.  A
restore either takes one Checkpoint as it is, or puts the post-quantum halves
of the Checkpoint under the slots of a newer Core whose epoch manifest agrees.
-/

namespace TwoMlsPq
namespace Session

open Foundation Apq

section

variable {M : MlsRs}

/-!
## Blobs as pictures of the core
-/

def Half.isPq : Half -> Bool
  | .sendClassical => false
  | .sendPq => true
  | .recvClassical => false
  | .recvPq => true

def SnapshotOf (snapshot : M.GroupSnapshot) (g : M.Group) : Prop :=
  exists g', Undisturbed g' g ∧ (M.exportGroup g').1 = .ok snapshot

def HalfSaved : Option M.Group -> Option M.GroupSnapshot -> Prop
  | some g, some snapshot => SnapshotOf snapshot g
  | none, none => True
  | _, _ => False

def Archive.half (a : Archive M) : Half -> Option M.GroupSnapshot
  | .sendClassical => some a.wire.sendGroup.classical
  | .sendPq => a.wire.sendGroup.pq
  | .recvClassical => a.wire.recvGroup.map GroupEntry.classical
  | .recvPq => a.wire.recvGroup.bind GroupEntry.pq

structure SlotsArchived (c : Core M) (a : Archive M) : Prop where
  client : a.wire.client = c.client
  staged : a.wire.rotation.stagedCandidates = c.staged
  mine : a.wire.authMine = c.auth.mine
  theirs : a.wire.authTheirs = c.auth.theirs
  theirId : a.wire.rotation.theirState.clientId = c.theirId
  staple : a.wire.msg.currentStaple = c.staple
  pending : a.wire.msg.pendingProposalMessage = c.pending
  offered : a.wire.msg.offeredProposal = c.offered
  queued : a.wire.msg.queuedProposal = c.queued
  mark : a.wire.msg.peerAppliedSendEpoch = c.mark
  inflight :
    inflightFromWire a.wire.round.pqInflight a.tail.responderWireCt = .ok c.inflight
  sideBand : a.wire.round.pendingSideBand.map RetainedFrame.frame = c.sideBand
  owed : a.wire.round.owedBind = c.owed
  turn : a.wire.round.pqTurnMine = c.turn
  wedged : a.tail.pqWedged = c.wedged
  bootstrapSecret : a.wire.round.bootstrapKpSecret = c.bootstrapSecret
  bootstrapKp : a.wire.round.bootstrapKp = c.bootstrapKp
  commitment : a.wire.round.expectedBootstrapKpCommitment = c.commitment
  sealTarget : a.wire.establishment.initialTheirKp = c.sealTarget
  delegates : a.wire.establishment.requiresEstablishmentEnvelope = c.delegates
  envelope : a.wire.establishment.establishmentEnvelope = c.envelope
  outbound : a.wire.msg.pendingOutbound = c.outbound
  joined : a.wire.msg.joinedWelcomeDigest = c.joined

structure Archived (kind : BlobKind) (c : Core M) (a : Archive M) : Prop where
  slots : SlotsArchived c a
  sendPqEpoch : a.wire.sendPqEpoch = c.epoch .sendPq
  recvPqEpoch : a.wire.recvPqEpoch = c.epoch .recvPq
  halves : forall h, (h.isPq = true -> kind = .checkpoint) ->
    HalfSaved (c.half h) (a.half h)

def Core.splice (c ck : Core M) : Core M :=
  { c with half := fun h => if h.isPq then ck.half h else c.half h }

/-- What a restore makes of a core: the handles of its clients are renumbered
and a broken receive path is forgotten. -/
def Restored (c r : Core M) : Prop :=
  (forall h, HalfQuiet (c.half h) (r.half h)) ∧
    r =
      { c with
        half := r.half
        client := { c.client with handle := 0 }
        staged := renumber 1 c.staged
        auth := { c.auth with adopting := false }
        broken := false }

/-- The cores a restore can come back to, when every pushed blob pictures a
core with `P`. -/
inductive Recovered (P : BlobKind -> Core M -> Prop) : Core M -> Prop
  | checkpoint {c : Core M} (h : P .checkpoint c) : Recovered P c
  | spliced {c ck : Core M} (h : P .core c) (h' : P .checkpoint ck)
      (sendPq : c.epoch .sendPq = ck.epoch .sendPq)
      (recvPq : c.epoch .recvPq = ck.epoch .recvPq) :
      Recovered P (c.splice ck)

def Pictured (P : BlobKind -> Core M -> Prop) (pushed : List (Push M)) : Prop :=
  forall p, p ∈ pushed -> exists c, P p.kind c ∧ Archived p.kind c p.archive

/-!
## Encoding
-/

theorem SnapshotOf.quiet {snapshot : M.GroupSnapshot} {g g' : M.Group}
    (h : SnapshotOf snapshot g) (hq : Undisturbed g g') :
    SnapshotOf snapshot g' := by
  rcases h with ⟨g₀, hsame, hexport⟩
  exact ⟨g₀, hsame.trans hq, hexport⟩

theorem HalfSaved.quiet {o o' : Option M.Group} {snapshot : Option M.GroupSnapshot}
    (h : HalfSaved o snapshot) (hq : HalfQuiet o o') :
    HalfSaved o' snapshot := by
  cases o with
  | none =>
      rw [hq.none_left]
      exact h
  | some g =>
      rcases hq.some_left with ⟨g', rfl, hsame⟩
      cases snapshot with
      | none => exact h.elim
      | some snapshot => exact SnapshotOf.quiet h hsame

theorem Stable.saved (h : Half) (snapshot : Option M.GroupSnapshot) :
    Stable fun c : Core M => HalfSaved (c.half h) snapshot :=
  fun _ _ hq hsaved => hsaved.quiet (hq.1 h)

theorem Stable.since (c₀ : Core M) : Stable fun c : Core M => Quiet c₀ c :=
  fun _ _ hq hc => hc.trans hq

variable (L : Lawful M) {A : Event M -> Prop} {p : Core M -> Prop}

include L

theorem via_exportHalf (hquiet : A .quiet) (hp : Stable p) (h : Half) :
    Via A p (exportHalf h)
      (fun snapshot c => HalfSaved (c.half h) (some snapshot) ∧ p c) := by
  refine Via.callHalf fun c env g hc held => ?_
  have hq : Quiet c (c.setHalf h (M.exportGroup g).2) :=
    Quiet.setHalf held (L.exportState g)
  refine ⟨Path.single hquiet (Step.quiet hq), ?_⟩
  intro snapshot hexport
  refine ⟨?_, hp _ _ hq hc⟩
  rw [Core.half_setHalf]
  exact ⟨g, L.exportState g, hexport⟩

theorem via_exportPqHalf (hquiet : A .quiet) (hp : Stable p) (h : Half)
    (includePq : Bool) :
    Via A p (exportPqHalf h includePq)
      (fun snapshot c =>
        (includePq = true -> HalfSaved (c.half h) snapshot) ∧ p c) := by
  unfold exportPqHalf
  refine Via.bind Via.state fun s => ?_
  split
  next hheld =>
    refine Via.pre (p := p) ?_ fun _ hc => hc.2
    refine Via.bind (via_exportHalf L hquiet hp h) fun pq => ?_
    exact Via.value _ fun c hc => ⟨fun _ => hc.1, hc.2⟩
  next hmissing =>
    refine Via.value _ fun c hc => ⟨?_, hc.2⟩
    intro hpq
    rw [hpq, Bool.true_and, Bool.not_eq_true, Option.isSome_eq_false_iff,
      Option.isNone_iff_eq_none] at hmissing
    rw [← hc.1]
    change HalfSaved (s.half h) none
    rw [hmissing]
    exact True.intro

theorem via_exportSend (hquiet : A .quiet) (hp : Stable p) (includePq : Bool) :
    Via A p (exportSend includePq)
      (fun entry c =>
        HalfSaved (c.half .sendClassical) (some entry.classical) ∧
          (includePq = true -> HalfSaved (c.half .sendPq) entry.pq) ∧ p c) := by
  unfold exportSend
  refine Via.bind (via_exportHalf L hquiet hp _) fun classical => ?_
  refine Via.bind (via_exportPqHalf L hquiet
    ((Stable.saved .sendClassical (some classical)).and hp) _ _) fun pq => ?_
  exact Via.value _ fun c hc => ⟨hc.2.1, hc.1, hc.2.2⟩

theorem via_exportRecv (hquiet : A .quiet) (hp : Stable p) (includePq : Bool) :
    Via A p (exportRecv includePq)
      (fun entry c =>
        HalfSaved (c.half .recvClassical) (entry.map GroupEntry.classical) ∧
          (includePq = true ->
            HalfSaved (c.half .recvPq) (entry.bind GroupEntry.pq)) ∧ p c) := by
  unfold exportRecv
  refine Via.bind Via.state fun s => ?_
  split
  next hmissing =>
    rw [Option.isNone_iff_eq_none] at hmissing
    refine Via.value _ fun c hc => ?_
    rw [← hc.1]
    change HalfSaved (s.half .recvClassical) none ∧
      (includePq = true -> HalfSaved (s.half .recvPq) none) ∧ p s.core
    unfold SessionInner.half
    rw [hmissing]
    refine ⟨True.intro, fun _ => True.intro, ?_⟩
    rw [hc.1]
    exact hc.2
  next =>
    refine Via.pre (p := p) ?_ fun _ hc => hc.2
    refine Via.bind (via_exportHalf L hquiet hp _) fun classical => ?_
    refine Via.bind (via_exportPqHalf L hquiet
      ((Stable.saved .recvClassical (some classical)).and hp) _ _) fun pq => ?_
    exact Via.value _ fun c hc => ⟨hc.2.1, hc.1, hc.2.2⟩

omit L in
theorem inflightFromWire_archived (i : Option PqInflight) :
    inflightFromWire (i.map wirePqInflight)
      (match i with
        | some (.responding _ ct) => ct
        | _ => none) = .ok i := by
  cases i with
  | none => rfl
  | some i => cases i <;> rfl

omit L in
theorem slotsArchived_of {s s₀ : SessionInner M} {wire : SessionArchive M}
    (hq : Quiet s₀.core s.core) (client : wire.client = s.client)
    (mine : wire.authMine = s.services.auth.mine)
    (theirs : wire.authTheirs = s.services.auth.theirs)
    (msg : wire.msg = archivedMsg s.msg) (rotation : wire.rotation = s.rotation)
    (round : wire.round = archivedRound s.round)
    (establishment : wire.establishment = s.establishment) :
    SlotsArchived s.core { wire := wire, tail := tailFrom s₀ } := by
  have hinflight : s₀.round.pqInflight = s.round.pqInflight :=
    (congrArg Core.inflight hq.2).symm
  have hwedged : s₀.round.pqWedged = s.round.pqWedged :=
    (congrArg Core.wedged hq.2).symm
  constructor
  case client => exact client
  case mine => exact mine
  case theirs => exact theirs
  case staged => exact congrArg RotationState.stagedCandidates rotation
  case theirId => exact congrArg (fun r => r.theirState.clientId) rotation
  case inflight =>
      change inflightFromWire wire.round.pqInflight
        (match s₀.round.pqInflight with
          | some (.responding _ ct) => ct
          | _ => none) = .ok s.round.pqInflight
      rw [round, hinflight]
      exact inflightFromWire_archived s.round.pqInflight
  case sideBand =>
      change wire.round.pendingSideBand.map RetainedFrame.frame =
        s.round.pendingSideBand.map RetainedFrame.frame
      rw [round]
      change (s.round.pendingSideBand.map _).map _ = _
      rw [Option.map_map]
      rfl
  case wedged => exact hwedged
  case staple | pending | offered | queued | mark | outbound | joined =>
      dsimp only
      rw [msg]
      rfl
  case owed | turn | bootstrapSecret | bootstrapKp | commitment =>
      dsimp only
      rw [round]
      rfl
  case sealTarget | delegates | envelope =>
      dsimp only
      rw [establishment]
      rfl

theorem via_buildArchiveWire (hquiet : A .quiet) (hp : Stable p)
    (includePq : Bool) (s₀ : SessionInner M) :
    Via A (fun c => Quiet s₀.core c ∧ p c) (buildArchiveWire includePq)
      (fun wire c =>
        Archived (if includePq then .checkpoint else .core) c
          { wire := wire, tail := tailFrom s₀ } ∧ p c) := by
  unfold buildArchiveWire
  have hstable : Stable fun c : Core M => Quiet s₀.core c ∧ p c :=
    (Stable.since _).and hp
  refine Via.quietly hquiet hstable (quiet_recordListenRendezvous L) fun _ => ?_
  refine Via.bind (via_exportSend L hquiet hstable includePq) fun send => ?_
  have hstable' : Stable fun c : Core M =>
      HalfSaved (c.half .sendClassical) (some send.classical) ∧
        (includePq = true -> HalfSaved (c.half .sendPq) send.pq) ∧
        Quiet s₀.core c ∧ p c :=
    (Stable.saved _ _).and
      ((Stable.imp fun _ => Stable.saved _ _).and hstable)
  refine Via.bind (via_exportRecv L hquiet hstable' includePq) fun recv => ?_
  refine Via.bind Via.state fun s => ?_
  refine Via.value _ ?_
  rintro c ⟨rfl, hrecv, hrecvPq, hsend, hsendPq, hq, hc⟩
  refine ⟨?_, hc⟩
  refine
    { slots := slotsArchived_of hq rfl rfl rfl rfl rfl rfl rfl
      sendPqEpoch := rfl
      recvPqEpoch := rfl
      halves := ?_ }
  intro h hkind
  cases h with
  | sendClassical => exact hsend
  | sendPq =>
      apply hsendPq
      cases includePq with
      | true => rfl
      | false => cases hkind rfl
  | recvClassical => exact hrecv
  | recvPq =>
      apply hrecvPq
      cases includePq with
      | true => rfl
      | false => cases hkind rfl

theorem via_encodeBlob (hquiet : A .quiet) (hp : Stable p) (kind : BlobKind) :
    Via A p (encodeBlob kind) (fun a c => Archived kind c a ∧ p c) := by
  unfold encodeBlob
  refine Via.bind Via.state fun s => ?_
  refine Via.bind ((via_buildArchiveWire L hquiet hp (kind == .checkpoint) s).pre ?_)
    fun wire => ?_
  · rintro c ⟨rfl, hc⟩
    exact ⟨Quiet.refl _, hc⟩
  · refine Via.value _ fun c hc => ?_
    cases kind with
    | core => exact hc
    | checkpoint => exact hc

/-!
## Reconciling
-/

omit L in
theorem archived_merge {c ck : Core M} {a b : Archive M}
    {recv : Option (GroupEntry M)}
    (ha : Archived .core c a) (hb : Archived .checkpoint ck b)
    (sendPq : a.wire.sendPqEpoch = b.wire.sendPqEpoch)
    (recvPq : a.wire.recvPqEpoch = b.wire.recvPqEpoch)
    (merged : mergeRecv a.wire.recvGroup b.wire.recvGroup = .ok recv) :
    Archived .checkpoint (c.splice ck)
      { a with
        wire := { a.wire with
          sendGroup := { a.wire.sendGroup with pq := b.wire.sendGroup.pq }
          recvGroup := recv } } := by
  refine
    { slots := { ha.slots with }
      sendPqEpoch := sendPq.trans hb.sendPqEpoch
      recvPqEpoch := recvPq.trans hb.recvPqEpoch
      halves := ?_ }
  intro h _
  cases h with
  | sendClassical => exact ha.halves .sendClassical fun h => nomatch h
  | sendPq => exact hb.halves .sendPq fun _ => rfl
  | recvClassical =>
      have hsaved := ha.halves .recvClassical fun h => nomatch h
      change HalfSaved (c.half .recvClassical) (recv.map GroupEntry.classical)
      change HalfSaved (c.half .recvClassical)
        (a.wire.recvGroup.map GroupEntry.classical) at hsaved
      unfold mergeRecv at merged
      split at merged
      next _ _ rg _ hcore =>
        cases merged
        rw [hcore] at hsaved
        exact hsaved
      next hcore hck =>
        cases merged
        rw [hcore] at hsaved
        exact hsaved
      next => cases merged
  | recvPq =>
      have hsaved := hb.halves .recvPq fun _ => rfl
      change HalfSaved (ck.half .recvPq) (recv.bind GroupEntry.pq)
      change HalfSaved (ck.half .recvPq)
        (b.wire.recvGroup.bind GroupEntry.pq) at hsaved
      unfold mergeRecv at merged
      split at merged
      next =>
        cases merged
        exact hsaved
      next hcore hck =>
        cases merged
        rw [hck] at hsaved
        exact hsaved
      next => cases merged

omit L in
theorem reconcilePersisted_recovers {P : BlobKind -> Core M -> Prop}
    {core checkpoint : Option (Archive M)} {a : Archive M}
    (hcore : forall b, core = some b -> exists c, P .core c ∧ Archived .core c b)
    (hcheckpoint : forall b, checkpoint = some b ->
      exists c, P .checkpoint c ∧ Archived .checkpoint c b)
    (h : reconcilePersisted core checkpoint = .ok a) :
    exists c, Recovered P c ∧ Archived .checkpoint c a := by
  unfold reconcilePersisted at h
  split at h
  next => cases h
  next ck =>
    cases h
    rcases hcheckpoint _ rfl with ⟨c, hc, harchived⟩
    exact ⟨c, Recovered.checkpoint hc, harchived⟩
  next ck newer =>
    rcases hcheckpoint _ rfl with ⟨c', hc', harchived'⟩
    split at h
    next =>
      cases h
      exact ⟨c', Recovered.checkpoint hc', harchived'⟩
    next =>
      rcases hcore _ rfl with ⟨c, hc, harchived⟩
      split at h
      next => cases h
      next hmanifest =>
        push Not at hmanifest
        cases hmerged : mergeRecv newer.wire.recvGroup ck.wire.recvGroup with
        | error e =>
            rw [hmerged] at h
            cases h
        | ok recv =>
            rw [hmerged] at h
            cases h
            refine ⟨c.splice c', Recovered.spliced hc hc' ?_ ?_,
              archived_merge harchived harchived' hmanifest.1 hmanifest.2 hmerged⟩
            · rw [← harchived.sendPqEpoch, ← harchived'.sendPqEpoch]
              exact hmanifest.1
            · rw [← harchived.recvPqEpoch, ← harchived'.recvPqEpoch]
              exact hmanifest.2

/-!
## Decoding
-/

theorem halfQuiet_load {o : Option M.Group} {snapshot : M.GroupSnapshot}
    {g' : M.Group} (h : HalfSaved o (some snapshot))
    (hload : M.loadGroup snapshot = .ok g') :
    HalfQuiet o (some g') := by
  cases o with
  | none => exact h.elim
  | some g =>
      rcases h with ⟨g₀, hsame, hexport⟩
      exact hsame.symm.trans (L.loadGroup g₀ g' snapshot hexport hload)

theorem loadCombinerGroup_halves {client : TwoMlsPqPrincipal M}
    {entry : GroupEntry M} {cg : CombinerGroup M} {classical pq : Option M.Group}
    (hclassical : HalfSaved classical (some entry.classical))
    (hpq : HalfSaved pq entry.pq)
    (h : loadCombinerGroup client entry = .ok cg) :
    HalfQuiet classical (some cg.classical) ∧ HalfQuiet pq cg.pq := by
  unfold loadCombinerGroup at h
  cases hload : M.loadGroup entry.classical with
  | error e =>
      rw [hload] at h
      cases h
  | ok g =>
      rw [hload] at h
      have hquiet := halfQuiet_load L hclassical hload
      cases hentry : entry.pq with
      | none =>
          rw [hentry] at hpq
          simp only [hentry] at h
          cases h
          refine ⟨hquiet, ?_⟩
          cases pq with
          | none => exact True.intro
          | some g => exact hpq.elim
      | some snapshot =>
          rw [hentry] at hpq
          simp only [hentry] at h
          cases hloadPq : M.loadGroup snapshot with
          | error e =>
              rw [hloadPq] at h
              cases h
          | ok gpq =>
              rw [hloadPq] at h
              cases h
              exact ⟨hquiet, halfQuiet_load L hpq hloadPq⟩

theorem loadRecv_halves {client : TwoMlsPqPrincipal M}
    {entry : Option (GroupEntry M)} {recv : Option (CombinerGroup M)}
    {classical pq : Option M.Group}
    (hclassical : HalfSaved classical (entry.map GroupEntry.classical))
    (hpq : HalfSaved pq (entry.bind GroupEntry.pq))
    (h : loadRecv client entry = .ok recv) :
    HalfQuiet classical (recv.map CombinerGroup.classical) ∧
      HalfQuiet pq (recv.bind CombinerGroup.pq) := by
  cases entry with
  | none =>
      cases h
      cases classical with
      | some g => exact hclassical.elim
      | none =>
          cases pq with
          | some g => exact hpq.elim
          | none => exact ⟨True.intro, True.intro⟩
  | some entry =>
      change (do
        let group <- loadCombinerGroup client entry
        Except.ok (some group) : Result (Option (CombinerGroup M))) = _ at h
      cases hload : loadCombinerGroup client entry with
      | error e =>
          rw [hload] at h
          cases h
      | ok cg =>
          rw [hload] at h
          cases h
          exact loadCombinerGroup_halves L hclassical hpq hload

theorem sessionFromWire_restored {c : Core M} {a : Archive M} {s : SessionInner M}
    (ha : Archived .checkpoint c a) (h : sessionFromWire a = .ok s) :
    Restored c s.core := by
  unfold sessionFromWire at h
  dsimp only at h
  split at h
  next => cases h
  next =>
    rw [ha.slots.inflight] at h
    change (do
      let sendGroup <- loadCombinerGroup _ a.wire.sendGroup
      _ : Result (SessionInner M)) = _ at h
    cases hsend : loadCombinerGroup { a.wire.client with handle := 0 }
        a.wire.sendGroup with
    | error e =>
        rw [hsend] at h
        cases h
    | ok send =>
        rw [hsend] at h
        change (do
          let recvGroup <- loadRecv _ a.wire.recvGroup
          _ : Result (SessionInner M)) = _ at h
        cases hrecv : loadRecv { a.wire.client with handle := 0 }
            a.wire.recvGroup with
        | error e =>
            rw [hrecv] at h
            cases h
        | ok recv =>
            rw [hrecv] at h
            change (if _ then _ else _) = _ at h
            split at h
            next => cases h
            next =>
              cases h
              have hsendHalves := loadCombinerGroup_halves L
                (ha.halves .sendClassical fun _ => rfl)
                (ha.halves .sendPq fun _ => rfl) hsend
              have hrecvHalves := loadRecv_halves L
                (ha.halves .recvClassical fun _ => rfl)
                (ha.halves .recvPq fun _ => rfl) hrecv
              refine ⟨?_, ?_⟩
              · intro hf
                cases hf with
                | sendClassical => exact hsendHalves.1
                | sendPq => exact hsendHalves.2
                | recvClassical => exact hrecvHalves.1
                | recvPq => exact hrecvHalves.2
              · rcases ha.slots with
                  ⟨hclient, hstaged, hmine, htheirs, htheirId, hstaple, hpending,
                    hoffered, hqueued, hmark, _, hsideBand, howed, hturn, hwedged,
                    hbootstrap, hkp, hcommitment, htarget, hdelegates, henvelope,
                    houtbound, hjoined⟩
                unfold SessionInner.core
                simp only [hclient, hstaged, hmine, htheirs, htheirId, hstaple,
                  hpending, hoffered, hqueued, hmark, hsideBand, howed, hturn,
                  hwedged, hbootstrap, hkp, hcommitment, htarget, hdelegates,
                  henvelope, houtbound, hjoined]

/-!
## Where the post-quantum halves come from
-/

omit L in
def LoadedFrom : Option M.GroupSnapshot -> Option M.Group -> Prop
  | some snapshot, some g => M.loadGroup snapshot = .ok g
  | none, none => True
  | _, _ => False

omit L in
theorem loadCombinerGroup_pq {client : TwoMlsPqPrincipal M}
    {entry : GroupEntry M} {cg : CombinerGroup M}
    (h : loadCombinerGroup client entry = .ok cg) :
    LoadedFrom entry.pq cg.pq := by
  unfold loadCombinerGroup at h
  cases hload : M.loadGroup entry.classical with
  | error e =>
      rw [hload] at h
      cases h
  | ok g =>
      rw [hload] at h
      cases hentry : entry.pq with
      | none =>
          simp only [hentry] at h
          cases h
          exact True.intro
      | some snapshot =>
          simp only [hentry] at h
          cases hloadPq : M.loadGroup snapshot with
          | error e =>
              rw [hloadPq] at h
              cases h
          | ok gpq =>
              rw [hloadPq] at h
              cases h
              exact hloadPq

omit L in
theorem loadRecv_pq {client : TwoMlsPqPrincipal M}
    {entry : Option (GroupEntry M)} {recv : Option (CombinerGroup M)}
    (h : loadRecv client entry = .ok recv) :
    LoadedFrom (entry.bind GroupEntry.pq) (recv.bind CombinerGroup.pq) := by
  cases entry with
  | none =>
      cases h
      exact True.intro
  | some entry =>
      change (do
        let group <- loadCombinerGroup client entry
        Except.ok (some group) : Result (Option (CombinerGroup M))) = _ at h
      cases hload : loadCombinerGroup client entry with
      | error e =>
          rw [hload] at h
          cases h
      | ok cg =>
          rw [hload] at h
          cases h
          exact loadCombinerGroup_pq hload

omit L in
theorem sessionFromWire_pq {a : Archive M} {s : SessionInner M}
    (h : sessionFromWire a = .ok s) {hf : Half} (hpq : hf.isPq = true) :
    LoadedFrom (a.half hf) (s.half hf) := by
  unfold sessionFromWire at h
  dsimp only at h
  split at h
  next => cases h
  next =>
    cases hinflight : inflightFromWire a.wire.round.pqInflight a.tail.responderWireCt with
    | error e =>
        rw [hinflight] at h
        cases h
    | ok inflight =>
        rw [hinflight] at h
        change (do
          let sendGroup <- loadCombinerGroup _ a.wire.sendGroup
          _ : Result (SessionInner M)) = _ at h
        cases hsend : loadCombinerGroup { a.wire.client with handle := 0 }
            a.wire.sendGroup with
        | error e =>
            rw [hsend] at h
            cases h
        | ok send =>
            rw [hsend] at h
            change (do
              let recvGroup <- loadRecv _ a.wire.recvGroup
              _ : Result (SessionInner M)) = _ at h
            cases hrecv : loadRecv { a.wire.client with handle := 0 }
                a.wire.recvGroup with
            | error e =>
                rw [hrecv] at h
                cases h
            | ok recv =>
                rw [hrecv] at h
                change (if _ then _ else _) = _ at h
                split at h
                next => cases h
                next =>
                  cases h
                  cases hf with
                  | sendPq => exact loadCombinerGroup_pq hsend
                  | recvPq => exact loadRecv_pq hrecv
                  | sendClassical => cases hpq
                  | recvClassical => cases hpq

omit L in
theorem reconcilePersisted_pq {core : Option (Archive M)} {ck a : Archive M}
    (h : reconcilePersisted core (some ck) = .ok a) {hf : Half}
    (hpq : hf.isPq = true) :
    a.half hf = ck.half hf := by
  unfold reconcilePersisted at h
  cases core with
  | none =>
      cases h
      rfl
  | some newer =>
      dsimp only at h
      split at h
      next =>
        cases h
        rfl
      next =>
        split at h
        next => cases h
        next =>
          cases hmerged : mergeRecv newer.wire.recvGroup ck.wire.recvGroup with
          | error e =>
              rw [hmerged] at h
              cases h
          | ok recv =>
              rw [hmerged] at h
              cases h
              cases hf with
              | sendPq => rfl
              | recvPq =>
                  unfold mergeRecv at hmerged
                  change recv.bind GroupEntry.pq = ck.wire.recvGroup.bind GroupEntry.pq
                  split at hmerged
                  next =>
                    cases hmerged
                    rfl
                  next hnone =>
                    cases hmerged
                    simp_all
                  next => cases hmerged
              | sendClassical => cases hpq
              | recvClassical => cases hpq

/-!
## Restoring
-/

omit L in
theorem latest_mem {kind : BlobKind} {pushed : List (Push M)} {a : Archive M}
    (h : latest kind pushed = some a) :
    exists p, p ∈ pushed ∧ p.kind = kind ∧ p.archive = a := by
  unfold latest at h
  rw [Option.map_eq_some_iff] at h
  rcases h with ⟨p, hp, rfl⟩
  have hmem := List.mem_of_getLast? hp
  rw [List.mem_filter] at hmem
  exact ⟨p, hmem.1, of_decide_eq_true hmem.2, rfl⟩

/-- A restore comes back to a recovered core. -/
theorem restore_restored {P : BlobKind -> Core M -> Prop} {pushed : List (Push M)}
    {s : SessionInner M} (hpushed : Pictured P pushed)
    (h : restore pushed = .ok s) :
    exists c, Recovered P c ∧ Restored c s.core := by
  have hlatest : forall kind b, latest kind pushed = some b ->
      exists c, P kind c ∧ Archived kind c b := by
    intro kind b hb
    rcases latest_mem hb with ⟨push, hmem, rfl, rfl⟩
    exact hpushed push hmem
  unfold restore restoreInner at h
  cases hrec : reconcilePersisted (latest .core pushed)
      (latest .checkpoint pushed) with
  | error e =>
      rw [hrec] at h
      cases h
  | ok a =>
      rw [hrec] at h
      rcases reconcilePersisted_recovers (fun b hb => hlatest _ b hb)
        (fun b hb => hlatest _ b hb) hrec with ⟨c, hc, harchived⟩
      exact ⟨c, hc, sessionFromWire_restored L harchived h⟩

end

end Session
end TwoMlsPq
