import TwoMlsPq.Session.Restore

/-!
# What a step does to one half

Seen from a single half, a step is quiet or it is one of eight things.  The
inversion is stated once, and the invariants about groups are read off it.
-/

namespace TwoMlsPq
namespace Session

open Foundation Apq

section

variable {M : MlsRs}

def Core.identityFor (c : Core M) : Half -> ClientIdentity M.Signer
  | .sendClassical => c.client.classical
  | .sendPq => c.client.pq
  | .recvClassical => c.client.classical
  | .recvPq => c.client.pq

def Core.keyPackagesFor (c : Core M) : Half -> List M.KeyPackageSecret
  | .sendClassical => c.client.classicalKpStore
  | .sendPq => c.client.pqKpStore
  | .recvClassical => c.client.classicalKpStore
  | .recvPq => c.client.pqKpStore

/-- How a half came to hold a group it did not hold before. -/
inductive HalfStep (c : Core M) : Event M -> Half -> M.Group -> Prop
  | peerCommit {h : Half} {m : M.Message} {g g' : M.Group}
      (held : c.half h = some g)
      (idle : h = .recvPq -> c.inflight = none)
      (kind : (M.description m).contentType = some .commit)
      (applied : PeerCommit m g g') :
      HalfStep c (.peerCommit h m) h g'
  | applyRekey {m : M.Message} {g g' : M.Group}
      (held : c.half .recvPq = some g)
      (initiated : c.inflight = some .rekeyInitiated)
      (applied : PeerCommit m g g') :
      HalfStep c (.applyRekey m) .recvPq g'
  | ownCommit {h : Half} {fold : Option (PeerProposal M)}
      {identity : Option (M.Signer × Bytes)} {g g' : M.Group}
      (send : h = .sendClassical ∨ h = .sendPq)
      (held : c.half h = some g)
      (discharged : c.owed = none)
      (handoff : HandsOff (c.identityFor h) identity)
      (applied : OwnCommit identity g g') :
      HalfStep c (.ownCommit h fold identity) h g'
  | propose {h : Half} {m : M.Message} {identity : Option (M.Signer × Bytes)}
      {g g' : M.Group}
      (held : c.half h = some g)
      (introduces : Introduces c h identity)
      (proposed : Proposed m identity g g') :
      HalfStep c (.propose h m identity) h g'
  | joinRecv {h : Half} {w : ApqWelcome M} {m : M.Message} {g' : M.Group}
      (recv : h = .recvClassical ∨ h = .recvPq)
      (missing : c.half h = none)
      (joined : Joined (c.identityFor h) (c.keyPackagesFor h) m g') :
      HalfStep c (.joinRecv w) h g'
  | createSendPq {kp : Blob M} {g' : M.Group}
      (missing : c.half .sendPq = none)
      (created : Created c.client.pq g') :
      HalfStep c (.createSendPq kp) .sendPq g'
  | joinRecvPq {w : Blob M} {m : M.Message} {g' : M.Group}
      (missing : c.half .recvPq = none)
      (parsed : w.parsed = some m)
      (joined :
        Joined c.client.pq (c.bootstrapSecret.toList ++ c.client.pqKpStore) m g') :
      HalfStep c (.joinRecvPq w) .recvPq g'

variable {c c' : Core M} {e : Event M}

theorem halfStep_setHalf {h h' : Half} {g' : M.Group}
    (hstep : HalfStep c e h g') :
    HalfQuiet (c.half h') ((c.setHalf h g').half h') ∨
      exists g₁, (c.setHalf h g').half h' = some g₁ ∧ HalfStep c e h' g₁ := by
  by_cases heq : h' = h
  · subst heq
    exact Or.inr ⟨g', Core.half_setHalf .., hstep⟩
  · rw [Core.half_setHalf_of_ne heq]
    exact Or.inl (HalfQuiet.refl _)

theorem Step.half_cases (hstep : Step e c c') (h : Half) :
    HalfQuiet (c.half h) (c'.half h) ∨
      exists g', c'.half h = some g' ∧ HalfStep c e h g' := by
  cases hstep with
  | quiet hq => exact Or.inl (hq.1 h)
  | peerCommit held idle kind applied =>
      exact halfStep_setHalf (HalfStep.peerCommit held idle kind applied)
  | applyRekey held initiated applied =>
      exact halfStep_setHalf (HalfStep.applyRekey held initiated applied)
  | ownCommit held discharged licensed handoff applied =>
      exact halfStep_setHalf
        (HalfStep.ownCommit (Or.inl rfl) held discharged handoff applied)
  | ownCommitPq held discharged handoff applied =>
      exact halfStep_setHalf
        (HalfStep.ownCommit (Or.inr rfl) held discharged handoff applied)
  | propose held introduces proposed =>
      exact halfStep_setHalf (HalfStep.propose held introduces proposed)
  | joinRecv missing missingPq parsed joined joinedPq decoded =>
      rename_i w m g pq welcome
      cases h with
      | recvClassical =>
          refine Or.inr ⟨g, ?_, HalfStep.joinRecv (Or.inl rfl) missing joined⟩
          simp [Function.update]
      | recvPq =>
          cases hpq : pq with
          | none =>
              refine Or.inl ?_
              rw [missingPq]
              simp [Function.update, HalfQuiet]
          | some g' =>
              rcases joinedPq g' hpq with ⟨m', hjoined⟩
              refine Or.inr ⟨g', ?_, HalfStep.joinRecv (Or.inr rfl) missingPq hjoined⟩
              simp [Function.update]
      | _ => exact Or.inl (HalfQuiet.refl _)
  | createSendPq missing created =>
      exact halfStep_setHalf (HalfStep.createSendPq missing created)
  | joinRecvPq missing live initiated parsed joined =>
      exact halfStep_setHalf (HalfStep.joinRecvPq missing parsed joined)
  | _ => exact Or.inl (HalfQuiet.refl _)

theorem HalfQuiet.symm {o o' : Option M.Group} (h : HalfQuiet o o') :
    HalfQuiet o' o := by
  cases o with
  | none =>
      rw [h.none_left]
      exact True.intro
  | some g =>
      rcases h.some_left with ⟨g', rfl, hsame⟩
      exact hsame.symm

theorem Quiet.symm {c c' : Core M} (hq : Quiet c c') : Quiet c' c := by
  refine ⟨fun h => (hq.1 h).symm, ?_⟩
  rw [hq.2]

theorem Step.half_ne_none (hstep : Step e c c') {h : Half} (held : c.half h ≠ none) :
    c'.half h ≠ none := by
  rcases hstep.half_cases h with hquiet | ⟨g', held', _⟩
  · intro hnone
    rw [hnone] at hquiet
    exact held hquiet.symm.none_left
  · exact ne_none_of_held held'

theorem Path.half_ne_none {A : Event M -> Prop} (hpath : Path A c c') {h : Half}
    (held : c.half h ≠ none) :
    c'.half h ≠ none :=
  hpath.invariant (I := fun c => c.half h ≠ none)
    (fun _ _ _ _ hstep hc => hstep.half_ne_none hc) held

theorem HalfQuiet.epoch {o o' : Option M.Group} (h : HalfQuiet o o') :
    o'.map M.currentEpoch = o.map M.currentEpoch := by
  cases o with
  | none => rw [h.none_left]
  | some g =>
      rcases h.some_left with ⟨g', rfl, hsame⟩
      exact congrArg some hsame.epoch

end

end Session
end TwoMlsPq
