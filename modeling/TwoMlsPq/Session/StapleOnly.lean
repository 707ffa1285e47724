import TwoMlsPq.Session.Adoption
import TwoMlsPq.Session.OwnSendGroup

/-!
# Frames that keep to their staple

A frame whose application section is neither a commit nor a proposal moves the
recv classical group through its staple only: by a join, or by a commit that is
checked, captured and entered.  The other sections are not held to that by the
code, and the library takes a commit from any of them.
-/

namespace TwoMlsPq
namespace Session

open Foundation Apq

section

variable {M : MlsRs} {C : ProposalCache M} {frame : Frame M} {s₀ : SessionInner M}

/-!
## Joins
-/

theorem Follows.idle {s s' : SessionInner M} (h : Follows C s s')
    (hs : Idle C frame s₀ s) :
    Idle C frame s₀ s' := by
  cases hs with
  | absent h₀ hnone => exact Idle.absent h₀ (h.absent hnone)
  | joined h₀ env client kps w g hjoin held =>
      exact Idle.joined h₀ env client kps w g hjoin (h.since held)
  | calm g h₀ held => exact Idle.calm g h₀ (h.since held)
  | refused g g' h₀ hstapled held hsame =>
      rcases h.since ⟨g', held, Calm.refl g'⟩ with ⟨g'', held', hcalm⟩
      exact Idle.refused g g'' h₀ hstapled held' (hsame.trans hcalm.toUndisturbed)

theorem Follows.carriedOut {m : M.Message} {g : M.Group} {full : Bool}
    {a : AppliedCommit C m g} {s s' : SessionInner M} (h : Follows C s s')
    (hs : CarriedOut full a s) :
    CarriedOut full a s' := by
  rcases hs.attested with ⟨attestation, hattestation, hcheck, hfull⟩
  rcases hs.entered with ⟨prior, new, hmoves, hentered⟩
  constructor
  · constructor
    · exact h.since hs.held
    · exact hs.twoParty
    · refine ⟨attestation, hattestation, ?_, hfull⟩
      rw [checkStapleAttestation_congr h.recvPq]
      exact hcheck
    · exact h.capturedAt hs.captured
  · refine ⟨prior, new, hmoves, ?_⟩
    constructor
    · rw [h.rotation, h.auth]
      exact hentered.theirs
    · rw [h.client, h.auth]
      exact hentered.mine

theorem Follows.recvMove {s s' : SessionInner M} (h : Follows C s s')
    (hs : RecvMove C frame s₀ s) :
    RecvMove C frame s₀ s' := by
  rcases hs with hidle | ⟨m, g, hstapled, held, a, ha⟩
  · exact Or.inl (h.idle hidle)
  · exact Or.inr ⟨m, g, hstapled, held, a, h.carriedOut ha⟩

theorem Trailing.keepsMove {α : Type} {x : SessionOp M α} (hx : Trailing C x) :
    Op.Keeps (RecvMove C frame s₀) x :=
  fun s hs => (hx.follows s).recvMove hs

/-- How a frame may end: a failure may leave a commit behind that a check refused. -/
def Ended (C : ProposalCache M) (frame : Frame M) (s₀ s : SessionInner M) : Prop :=
  RecvMove C frame s₀ s ∨ Rejected C frame s₀ s

theorem Trailing.ends {α : Type} {x : SessionOp M α} (hx : Trailing C x) :
    Op.Triple (RecvMove C frame s₀) x (fun _ => RecvMove C frame s₀)
      fun _ => Ended C frame s₀ :=
  (Op.Triple.ofKeeps hx.keepsMove).weaken (fun _ _ hs => hs) fun _ _ hs => Or.inl hs

end

/-!
## On the reference pair
-/

namespace ReferencePair

end ReferencePair

namespace ReferencePair

end ReferencePair

end Session
end TwoMlsPq
