import TwoMlsPq.Apq.Laws
import TwoMlsPq.Apq.PqRatchet
import TwoMlsPq.Foundation.Triple

/-!
# What the ratchet of one half does to its group

An export spends a leaf of the exporter tree and leaves every observation
alone.  Injecting a secret is one commit of our own, applying an injected
commit is one commit of the peer; whatever fails around the commit, the group
has moved at most by that commit.
-/

namespace TwoMlsPq
namespace Apq

open Foundation

section

variable {M : MlsRs} (L : Lawful M)

include L

/-!
## Exports
-/

theorem exportPsk_undisturbed (domain : PskDomain) (g : M.Group) :
    Undisturbed g ((exportPsk domain : GroupOp M ExportedPsk).run g).2 := by
  have hexport := L.safeExport domain.componentId g
  unfold exportPsk
  rw [Op.run_bind]
  unfold GroupOp.call
  rw [Op.run_ofResult]
  rcases hrun : M.safeExportSecret domain.componentId g with ⟨r, g'⟩
  rw [hrun] at hexport
  cases r with
  | error e => exact hexport
  | ok exporter =>
      simp only [Op.run_bind, Op.run_state, Op.run_ofExcept]
      cases orError TwoMlsPqError.mls (M.deriveSecret g' exporter pskIdLabel) with
      | error e => exact hexport
      | ok pskId =>
          cases orError TwoMlsPqError.mls (M.deriveSecret g' exporter pskLabel) with
          | error e => exact hexport
          | ok psk => exact hexport

theorem exportAttachmentComponent_undisturbed (g : M.Group) :
    Undisturbed g ((exportAttachmentComponent : GroupOp M Bytes).run g).2 := by
  have hexport := L.safeExport attachmentComponentId g
  unfold exportAttachmentComponent GroupOp.call
  rw [Op.run_ofResult]
  rcases hrun : M.safeExportSecret attachmentComponentId g with ⟨r, g'⟩
  rw [hrun] at hexport
  cases r with
  | error e => exact hexport
  | ok a => exact hexport

theorem exportApqPsk_still (stores : List StoreId) (hs : HalfState M) :
    ((exportApqPsk stores).run hs).2.services.auth = hs.services.auth ∧
      Undisturbed hs.group ((exportApqPsk stores).run hs).2.group := by
  have hexport := exportPsk_undisturbed L .apq hs.group
  unfold exportApqPsk HalfOp.ofGroup HalfOp.register
  simp only [Op.run_bind, Op.run_ofResult]
  cases ((exportPsk PskDomain.apq : GroupOp M ExportedPsk).run hs.group).1 with
  | error e => exact ⟨rfl, hexport⟩
  | ok apqPsk => exact ⟨rfl, hexport⟩

omit L in
theorem orError_error {α : Type} {e e' : TwoMlsPqError} {r : Except MlsError α}
    (h : orError e r = .error e') :
    e' = e := by
  cases r with
  | ok a => cases h
  | error e₀ =>
      cases h
      rfl

omit L in
theorem exportPsk_fails (domain : PskDomain) :
    Op.Fails (exportPsk domain : GroupOp M ExportedPsk) fun e => e = .mls := by
  unfold exportPsk
  refine Op.Fails.bind ?_ fun exporter => ?_
  · intro g e he
    unfold GroupOp.call at he
    rw [Op.run_ofResult] at he
    split at he
    next => cases he
    next =>
      cases he
      rfl
  refine Op.Fails.bind Op.Fails.state fun g => ?_
  refine Op.Fails.bind (Op.Fails.ofExcept fun _ => orError_error) fun pskId => ?_
  refine Op.Fails.bind (Op.Fails.ofExcept fun _ => orError_error) fun psk => ?_
  exact Op.Fails.value _

omit L in
theorem exportApqPsk_fails (stores : List StoreId) :
    Op.Fails (exportApqPsk stores : HalfOp M ExportedPsk) fun e => e = .mls := by
  unfold exportApqPsk
  refine Op.Fails.bind ?_ fun psk => ?_
  · exact fun hs e he => exportPsk_fails .apq hs.group e he
  exact Op.Fails.bind (Op.Fails.update _) fun _ => Op.Fails.value _

/-!
## Injecting a secret
-/

omit L in
def Changes (E : M.Group -> M.Group -> Prop) (hs hs' : HalfState M) : Prop :=
  hs'.services.auth = hs.services.auth ∧ E hs.group hs'.group

omit L in
/-- Nothing moved, or one commit of our own. -/
def OwnCommitted (g g' : M.Group) : Prop :=
  Undisturbed g g' ∨ OwnCommit none g g'

omit L in
/-- Nothing moved, or the one commit of the peer. -/
def PeerCommitted (b : Blob M) (g g' : M.Group) : Prop :=
  Undisturbed g g' ∨
    exists m, b.parsed = some m ∧ (M.description m).contentType = some .commit ∧
      PeerCommit m g g'

omit L in
theorem run_call {α : Type} (store : StoreId) (err : MlsError -> TwoMlsPqError)
    (f : MlsEnv -> M.Group -> Except MlsError α × M.Group) (hs : HalfState M) :
    (HalfOp.call store err f).run hs =
      (match (f (hs.services.env store) hs.group).1 with
        | .ok a => .ok a
        | .error e => .error (err e),
      { hs with group := (f (hs.services.env store) hs.group).2 }) := by
  unfold HalfOp.call
  rw [Op.run_ofResult]
  rcases f (hs.services.env store) hs.group with ⟨r, g'⟩
  cases r with
  | ok a => rfl
  | error e => rfl

theorem buildAndApply_effect (store : StoreId)
    {request : CommitRequest M.Message M.Signer}
    (hidentity : request.newSigningIdentity = none) (seed : M.Seed)
    (hs : HalfState M) :
    Changes OwnCommitted hs ((buildAndApply store request seed).run hs).2 ∧
      forall m, ((buildAndApply store request seed).run hs).1 = .ok m ->
        OwnCommit none hs.group
          ((buildAndApply store request seed).run hs).2.group := by
  have hsame := L.build (hs.services.env store) request seed hs.group
  have hmessage := L.buildMessage (hs.services.env store) request seed hs.group
  unfold buildAndApply
  rw [Op.run_bind, run_call]
  rcases hbuild : M.buildCommit (hs.services.env store) request seed hs.group
    with ⟨r, built⟩
  rw [hbuild] at hsame hmessage
  cases r with
  | error e => exact ⟨⟨rfl, Or.inl hsame⟩, by intro m hm; cases hm⟩
  | ok out =>
      have hpending := (hmessage out rfl).2.2
      rw [hidentity] at hpending
      have herror := L.applyError (hs.services.env store) built
      have hok := L.applyOk (hs.services.env store) built
      dsimp only
      rw [Op.run_bind, run_call]
      dsimp only
      rcases happly : M.applyPendingCommit (hs.services.env store) built
        with ⟨r', applied⟩
      rw [happly] at herror hok
      cases r' with
      | error e =>
          exact ⟨⟨rfl, Or.inl (hsame.trans (herror e rfl))⟩,
            by intro m hm; cases hm⟩
      | ok _ =>
          rcases hok rfl with ⟨identity, hid, hcommit⟩
          rw [hpending] at hid
          cases hid
          have hown : OwnCommit none hs.group applied := hcommit.before hsame
          have hstill : Op.Still (do
              let g <- HalfOp.group
              Op.ofExcept (ensureTwoParty g)
              pure out.commitMessage : HalfOp M M.Message) :=
            Op.Still.bind (Op.Still.bind Op.Still.state fun _ => Op.Still.value _)
              fun _ => Op.Still.bind (Op.Still.ofExcept _) fun _ => Op.Still.value _
          have hend := hstill { hs with group := applied }
          dsimp only
          rw [hend]
          exact ⟨⟨rfl, Or.inr hown⟩, fun _ _ => hown⟩

theorem injectAndCommit_effect (store : StoreId) (stores : List StoreId)
    (secret : Bytes) (attestation : ApqInfoUpdate) (seed : M.Seed)
    (hs : HalfState M) :
    Changes OwnCommitted hs
        ((injectAndCommit store stores secret attestation seed).run hs).2 ∧
      forall b,
        ((injectAndCommit store stores secret attestation seed).run hs).1 = .ok b ->
          OwnCommit none hs.group
            ((injectAndCommit store stores secret attestation seed).run hs).2.group := by
  unfold injectAndCommit HalfOp.group HalfOp.register HalfOp.forget
  simp only [Op.run_bind, Op.run_state, Op.run_pure, Op.run_update, Op.run_attempt,
    Op.run_ofExcept]
  let request : CommitRequest M.Message M.Signer :=
    { addMember := none
      psks := [injectedPskId hs.group]
      customProposal := some attestation
      newSigningIdentity := none }
  have hrequest : request.newSigningIdentity = none := rfl
  rcases buildAndApply_effect L store hrequest seed
      { hs with services := { hs.services with
        psks := hs.services.psks.register stores (injectedPskId hs.group) secret } }
    with ⟨hchanges, hcommit⟩
  rcases hrun : (buildAndApply store _ seed).run _ with ⟨r, hs'⟩
  rw [hrun] at hchanges hcommit
  cases r with
  | error e => exact ⟨hchanges, by intro b hb; cases hb⟩
  | ok m => exact ⟨hchanges, fun _ _ => hcommit m rfl⟩

/-!
## Applying an injected commit
-/

theorem processAttested_effect (store : StoreId) (b : Blob M) (hs : HalfState M) :
    Changes (PeerCommitted b) hs ((processAttested store b).run hs).2 := by
  unfold processAttested
  cases hparsed : b.parsed with
  | none => exact ⟨rfl, Or.inl (Undisturbed.refl _)⟩
  | some m =>
      have heffect := L.process (hs.services.env store) m hs.group
      rw [Op.run_bind]
      change Changes (PeerCommitted b) hs
        ((HalfOp.call store (fun _ => TwoMlsPqError.mls)
          (fun env => M.processIncomingMessage env m) >>= _).run hs).2
      rw [Op.run_bind_still, run_call]
      · rcases hrun : M.processIncomingMessage (hs.services.env store) m hs.group
          with ⟨r, g'⟩
        rw [hrun] at heffect
        refine ⟨rfl, ?_⟩
        cases r with
        | error e => exact Or.inl heffect
        | ok received =>
            cases received with
            | applicationMessage index data => exact Or.inl heffect.2
            | proposal desc => exact Or.inl heffect.2.2
            | commit effect => exact Or.inr ⟨m, hparsed, heffect⟩
            | other => exact Or.inl heffect.2
      · intro received
        refine Op.Still.bind ?_ fun attestation => ?_
        · cases received with
          | commit effect => exact Op.Still.ofExcept _
          | applicationMessage index data => exact Op.Still.fail _
          | proposal desc => exact Op.Still.fail _
          | other => exact Op.Still.fail _
        · refine Op.Still.bind (Op.Still.ofOption _ _) fun _ => ?_
          refine Op.Still.bind
            (Op.Still.bind Op.Still.state fun _ => Op.Still.value _) fun g => ?_
          exact Op.Still.bind (Op.Still.ofExcept _) fun _ => Op.Still.value _

omit L in
theorem PeerCommitted.after {b : Blob M} {g g' g'' : M.Group}
    (h : PeerCommitted b g g') (h' : Undisturbed g' g'') :
    PeerCommitted b g g'' := by
  rcases h with hsame | ⟨m, hparsed, hkind, hcommit⟩
  · exact Or.inl (hsame.trans h')
  · exact Or.inr ⟨m, hparsed, hkind, hcommit.after h'⟩

theorem applyInjectedCommit_effect (store : StoreId) (stores : List StoreId)
    (secret : Bytes) (pqCommit : Blob M) (hs : HalfState M) :
    Changes (PeerCommitted pqCommit) hs
      ((applyInjectedCommit store stores secret pqCommit).run hs).2 := by
  unfold applyInjectedCommit HalfOp.group HalfOp.register HalfOp.forget
  simp only [Op.run_bind, Op.run_state, Op.run_pure, Op.run_update, Op.run_attempt,
    Op.run_ofExcept]
  have hprocess :=
    processAttested_effect L store pqCommit
      { hs with services := { hs.services with
        psks := hs.services.psks.register stores (injectedPskId hs.group) secret } }
  rcases hrun : (processAttested store pqCommit).run _ with ⟨r, hs'⟩
  rw [hrun] at hprocess
  cases r with
  | error e => exact hprocess
  | ok attestation =>
      dsimp only
      have hexport :=
        exportApqPsk_still L stores
          { hs' with services := { hs'.services with
            psks := hs'.services.psks.forget stores (injectedPskId hs.group) } }
      rcases hrun' : (exportApqPsk stores).run _ with ⟨r', hs''⟩
      rw [hrun'] at hexport
      cases r' with
      | error e =>
          exact ⟨hexport.1.trans hprocess.1, PeerCommitted.after hprocess.2 hexport.2⟩
      | ok psk =>
          exact ⟨hexport.1.trans hprocess.1, PeerCommitted.after hprocess.2 hexport.2⟩

/-!
## A bind that was applied
-/

omit L in
def AttestedBy (b : Blob M) (g : M.Group) (attestation : ApqInfoUpdate) : Prop :=
  exists m env effect g', b.parsed = some m ∧
    M.processIncomingMessage env m g = (.ok (.commit effect), g') ∧
    commitAttestation effect = .ok (some attestation)

theorem processAttested_advances (store : StoreId) (b : Blob M) (g : M.Group) :
    Op.Triple (fun hs => hs.group = g) (processAttested store b)
      (fun attestation hs => AttestedBy b g attestation ∧
        M.currentEpoch hs.group = M.currentEpoch g + 1) fun _ _ => True := by
  unfold processAttested
  cases hparsed : b.parsed with
  | none => exact Op.Triple.failing fun _ _ => True.intro
  | some message =>
      refine Op.Triple.present ?_
      refine Op.Triple.bind (Q := fun received hs => forall effect,
        received = .commit effect ->
          (exists env g', M.processIncomingMessage env message g =
            (.ok (.commit effect), g')) ∧
          M.currentEpoch hs.group = M.currentEpoch g + 1) ?_ fun received => ?_
      · rintro hs rfl
        have heffect := L.process (hs.services.env store) message hs.group
        rw [run_call]
        rcases hrun : M.processIncomingMessage (hs.services.env store) message hs.group
          with ⟨r, g'⟩
        rw [hrun] at heffect
        cases r with
        | error e => exact True.intro
        | ok received =>
            rintro effect rfl
            exact ⟨⟨_, _, hrun⟩, heffect.2.epoch⟩
      cases received with
      | applicationMessage index data => exact Op.Triple.failing fun _ _ => True.intro
      | proposal desc => exact Op.Triple.failing fun _ _ => True.intro
      | other => exact Op.Triple.failing fun _ _ => True.intro
      | commit effect =>
          refine Op.Triple.pre (P := fun hs =>
            (exists env g', M.processIncomingMessage env message g =
              (.ok (.commit effect), g')) ∧
            M.currentEpoch hs.group = M.currentEpoch g + 1) ?_
            fun hs hhs => hhs effect rfl
          refine Op.Triple.knowing (Op.Returns.ofExcept _)
            (Op.Triple.keptBy (Op.Still.ofExcept _) fun _ _ _ => True.intro)
            fun attestation hattestation => ?_
          refine Op.Triple.knowing (Op.Returns.ofOption _ _)
            (Op.Triple.keptBy (Op.Still.ofOption _ _) fun _ _ _ => True.intro)
            fun attestation' hsome => ?_
          refine Op.Triple.looking
            (Op.Still.bind Op.Still.state fun _ => Op.Still.value _)
            (fun _ _ _ => True.intro) fun g' => ?_
          refine Op.Triple.looking (Op.Still.ofExcept _) (fun _ _ _ => True.intro)
            fun _ => ?_
          refine Op.Triple.value fun hs hhs => ?_
          rcases hhs with ⟨⟨env, g₁, hprocess⟩, hepoch⟩
          rw [hsome] at hattestation
          exact ⟨⟨message, env, effect, g₁, hparsed, hprocess, hattestation⟩, hepoch⟩

/-- An injected commit that was applied moved the group by one epoch. -/
theorem applyInjectedCommit_advances (store : StoreId) (stores : List StoreId)
    (secret : Bytes) (pqCommit : Blob M) (g : M.Group) :
    Op.Triple (fun hs => hs.group = g)
      (applyInjectedCommit store stores secret pqCommit)
      (fun applied hs => AttestedBy pqCommit g applied.2 ∧
        M.currentEpoch hs.group = M.currentEpoch g + 1) fun _ _ => True := by
  unfold applyInjectedCommit
  refine Op.Triple.looking (Op.Still.bind Op.Still.state fun _ => Op.Still.value _)
    (fun _ _ _ => True.intro) fun g' => ?_
  dsimp only
  refine Op.Triple.bind (Q := fun _ hs => hs.group = g)
    (Op.Triple.update fun _ h => h) fun _ => ?_
  refine Op.Triple.bind (processAttested_advances L store pqCommit g).attempt
    fun applied => ?_
  cases applied with
  | error e =>
      refine Op.Triple.bind (Q := fun _ _ => True)
        (Op.Triple.update fun _ _ => True.intro) fun _ => ?_
      exact Op.Triple.bind (Q := fun _ _ => False) (fun _ _ => True.intro) fun _ _ h =>
        h.elim
  | ok attestation =>
      refine Op.Triple.bind
        (Q := fun _ hs => AttestedBy pqCommit g attestation ∧
          M.currentEpoch hs.group = M.currentEpoch g + 1)
        (Op.Triple.update fun _ h => h) fun _ => ?_
      refine Op.Triple.given ?_
      refine Op.Triple.bind
        (Q := fun _ hs => AttestedBy pqCommit g attestation ∧
          M.currentEpoch hs.group = M.currentEpoch g + 1) ?_
        fun apqPsk => Op.Triple.value fun _ h => h
      intro hs h
      have hepoch := (exportApqPsk_still L stores hs).2.epoch.trans h.2
      cases hresult : ((exportApqPsk stores).run hs).1 with
      | ok psk => exact ⟨h.1, hepoch⟩
      | error e => exact True.intro

end

end Apq
end TwoMlsPq
