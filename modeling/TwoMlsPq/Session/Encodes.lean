import TwoMlsPq.Foundation.Triple
import TwoMlsPq.Session.Sound

/-!
# Encoding a blob does not fail

With a dependable library, a session that holds its send group can always be
written: every half it holds can be exported, and the listen address of its
send epoch can be captured.
-/

namespace TwoMlsPq
namespace Session

open Foundation Apq

section

variable {M : MlsRs} {α : Type}

def HoldsSend (s : SessionInner M) : Prop :=
  s.sendGroup.isSome = true

def Holds (h : Half) (s : SessionInner M) : Prop :=
  HoldsSend s ∧ (s.half h).isSome = true

theorem holds_sendClassical {s : SessionInner M} (hs : HoldsSend s) :
    Holds .sendClassical s := by
  refine ⟨hs, ?_⟩
  unfold HoldsSend at hs
  unfold SessionInner.half
  simpa using hs

theorem halfStore_isSome {s : SessionInner M} {h : Half}
    (held : (s.half h).isSome = true) :
    (s.halfStore h).isSome = true := by
  cases hsend : s.sendGroup <;> cases hrecv : s.recvGroup <;> cases h <;>
    simp_all [SessionInner.half, SessionInner.halfStore]

theorem triple_readHalf {β : Type} {P : SessionInner M -> Prop} {h : Half}
    {missing : TwoMlsPqError} {f : M.Group -> SessionOp M β}
    {R : β -> SessionInner M -> Prop} {E : TwoMlsPqError -> SessionInner M -> Prop}
    (hnone : forall s, P s -> s.half h = none -> E missing s)
    (hf : forall s g, P s -> s.half h = some g ->
      Op.Triple (fun s' => s' = s) (f g) R E) :
    Op.Triple P (readHalf h missing >>= f) R E := by
  intro s hs
  cases held : s.half h with
  | none =>
      have hrun : (readHalf h missing).run s = (.error missing, s) := by
        unfold readHalf
        rw [Op.run_bind_ok (Op.run_state s), held]
        rfl
      rw [Op.run_bind_error hrun]
      exact hnone s hs held
  | some g =>
      rw [Op.run_bind_ok (run_readHalf held missing)]
      exact hf s g hs held s rfl

theorem triple_calling {h : Half} {s₁ : SessionInner M} {g : M.Group} {store : StoreId}
    (held : s₁.half h = some g) (hstore : s₁.halfStore h = some store)
    (missing : TwoMlsPqError) (err : MlsError -> TwoMlsPqError)
    (f : MlsEnv -> M.Group -> Except MlsError α × M.Group) :
    Op.Triple (fun s => s = s₁) (callHalf h missing err f)
      (fun a s => exists g', f (s₁.services.env store) g = (.ok a, g') ∧
        s = s₁.setHalf h g')
      fun _ s => exists e g', f (s₁.services.env store) g = (.error e, g') ∧
        s = s₁.setHalf h g' := by
  rintro s rfl
  unfold callHalf
  rw [run_onHalf held hstore, run_call]
  dsimp only
  have hsame : forall g', { s.setHalf h g' with services := s.services } = s.setHalf h g' := by
    intro g'
    cases h <;> rfl
  rcases hrun : f (s.services.env store) g with ⟨r, g'⟩
  cases r with
  | ok a => exact ⟨g', rfl, hsame g'⟩
  | error e => exact ⟨e, g', rfl, hsame g'⟩

theorem holdsSend_onHalf (h : Half) (missing : TwoMlsPqError)
    (y : StoreId -> HalfOp M α) :
    Op.Keeps HoldsSend (onHalf h missing y) := by
  intro s hs
  unfold onHalf
  rw [Op.run_ofResult]
  split
  next g store held hstore =>
    exact (sendGroup_setHalf s h
      ((y store).run { services := s.services, group := g }).2.group).trans hs
  next => exact hs

theorem completes_callHalf (h : Half) (missing : TwoMlsPqError)
    (err : MlsError -> TwoMlsPqError)
    (f : MlsEnv -> M.Group -> Except MlsError α × M.Group)
    (hf : forall env g, exists a, (f env g).1 = .ok a) :
    Op.Completes (Holds h) (callHalf h missing err f) fun _ => HoldsSend := by
  intro s hs
  have hkept := holdsSend_onHalf h missing (fun store => HalfOp.call store err f) s hs.1
  rcases Option.isSome_iff_exists.mp hs.2 with ⟨g, held⟩
  rcases Option.isSome_iff_exists.mp (halfStore_isSome hs.2) with ⟨store, hstore⟩
  have hresult : exists a, ((callHalf h missing err f).run s).1 = .ok a := by
    rcases hf (s.services.env store) g with ⟨a, ha⟩
    refine ⟨a, ?_⟩
    unfold callHalf onHalf
    rw [Op.run_ofResult, held, hstore]
    dsimp only
    rw [run_call, ha]
  rcases hresult with ⟨a, ha⟩
  rw [ha]
  exact hkept

section

variable (T : Dependable M)

include T

theorem completes_exportSecret (P : SessionInner M -> Prop) (g : M.Group)
    (label context : Bytes) {length : Nat} (h : length = 32 ∨ length = M.aeadKeySize) :
    Op.Completes P
      (Op.ofExcept (orError .mls (M.exportSecret g label context length)) :
        SessionOp M Bytes)
      fun _ => P := by
  rcases T.exportSecret g label context length h with ⟨secret, hexport, -⟩
  refine Op.Triple.post (Op.Completes.ofExcept (a := secret) ?_) fun _ _ hs => hs.2
  rw [hexport]
  rfl

theorem completes_recordListenRendezvous :
    Op.Completes HoldsSend (recordListenRendezvous : SessionOp M Unit)
      fun _ => HoldsSend := by
  unfold recordListenRendezvous
  refine Op.Triple.reading fun s hs => ?_
  split
  · refine Op.Triple.value fun s' hs' => ?_
    rw [hs']
    exact hs
  next g held =>
    dsimp only
    refine Op.Triple.pre (P := HoldsSend) ?_ fun s' hs' => by rw [hs']; exact hs
    refine Op.Triple.ite (fun _ => Op.Triple.value fun _ h => h) fun _ => ?_
    refine Op.Triple.bind (completes_exportSecret T _ g _ _ (Or.inl rfl)) fun _ => ?_
    refine Op.Triple.bind (completes_exportSecret T _ g _ _ (Or.inr rfl)) fun _ => ?_
    refine Op.Triple.bind (Q := fun _ => HoldsSend) (Op.Triple.update fun _ h => h)
      fun _ => ?_
    refine Op.Triple.bind
      ((completes_callHalf _ _ _ _ fun _ g => ⟨(), T.writeStorage g⟩).pre
        fun _ => holds_sendClassical) fun _ => ?_
    refine Op.Triple.bind (Q := fun _ => HoldsSend) ?_ fun g' => ?_
    · intro s' hs'
      rcases Option.isSome_iff_exists.mp (holds_sendClassical hs').2 with ⟨g', held'⟩
      rw [run_readHalf held']
      exact hs'
    · exact Op.Triple.update fun _ h => h

theorem completes_exportHalf (h : Half) :
    Op.Completes (Holds h) (exportHalf h : SessionOp M M.GroupSnapshot)
      fun _ => HoldsSend :=
  completes_callHalf h _ _ _ fun _ g => T.exportGroup g

theorem completes_exportPqHalf (h : Half) (includePq : Bool) :
    Op.Completes HoldsSend
      (exportPqHalf h includePq : SessionOp M (Option M.GroupSnapshot))
      fun _ => HoldsSend := by
  unfold exportPqHalf
  refine Op.Triple.reading fun s hs => ?_
  refine Op.Triple.ite (fun hheld => ?_) fun _ => ?_
  · refine Op.Triple.bind ((completes_exportHalf T h).pre ?_)
      fun _ => Op.Triple.value fun _ h => h
    rintro s' rfl
    exact ⟨hs, (Bool.and_eq_true_iff.mp hheld).2⟩
  · refine Op.Triple.value fun s' hs' => ?_
    rw [hs']
    exact hs

theorem completes_exportSend (includePq : Bool) :
    Op.Completes HoldsSend (exportSend includePq : SessionOp M (GroupEntry M))
      fun _ => HoldsSend := by
  unfold exportSend
  refine Op.Triple.bind ((completes_exportHalf T _).pre fun _ => holds_sendClassical)
    fun classical => ?_
  refine Op.Triple.bind (completes_exportPqHalf T _ _) fun pq => ?_
  exact Op.Triple.value fun _ h => h

theorem completes_exportRecv (includePq : Bool) :
    Op.Completes HoldsSend
      (exportRecv includePq : SessionOp M (Option (GroupEntry M)))
      fun _ => HoldsSend := by
  unfold exportRecv
  refine Op.Triple.reading fun s hs => ?_
  refine Op.Triple.ite (fun _ => ?_) fun hsome => ?_
  · refine Op.Triple.value fun s' hs' => ?_
    rw [hs']
    exact hs
  · refine Op.Triple.bind ((completes_exportHalf T _).pre ?_) fun classical => ?_
    · rintro s' rfl
      refine ⟨hs, ?_⟩
      cases hrecv : s'.recvGroup with
      | none =>
          rw [hrecv] at hsome
          exact absurd rfl hsome
      | some recv => simp [SessionInner.half, hrecv]
    refine Op.Triple.bind (completes_exportPqHalf T _ _) fun pq => ?_
    exact Op.Triple.value fun _ h => h

theorem completes_encodeBlob (kind : BlobKind) :
    Op.Completes HoldsSend (encodeBlob kind : SessionOp M (Archive M))
      fun _ => HoldsSend := by
  unfold encodeBlob buildArchiveWire
  refine Op.Triple.bind (Q := fun _ => HoldsSend) (fun _ h => h) fun s => ?_
  refine Op.Triple.bind (Q := fun _ => HoldsSend) ?_ fun wire =>
    Op.Triple.value fun _ h => h
  refine Op.Triple.bind (completes_recordListenRendezvous T) fun _ => ?_
  refine Op.Triple.bind (completes_exportSend T _) fun sendGroup => ?_
  refine Op.Triple.bind (completes_exportRecv T _) fun recvGroup => ?_
  refine Op.Triple.bind (Q := fun _ => HoldsSend) (fun _ h => h) fun s => ?_
  exact Op.Triple.value fun _ h => h

theorem encodeAndPush_pushes (kind : BlobKind) {t : TwoMlsPqSession M}
    (hsink : t.sinkInstalled = true) (hsend : HoldsSend t.inner) :
    exists p, p.kind = kind ∧
      ((encodeAndPush kind).run t).2.pushed = t.pushed ++ [p] := by
  rcases (completes_encodeBlob T kind).result hsend with ⟨archive, hencoded, -⟩
  let p : Push M :=
    { seq := ((encodeBlob kind).run t.inner).2.stateSeq
      kind := kind
      archive := archive }
  refine ⟨p, rfl, ?_⟩
  unfold encodeAndPush
  rw [Op.run_bind, Op.run_state]
  dsimp only
  rw [if_pos hsink, Op.run_bind]
  unfold locked
  rw [Op.run_ofResult, hencoded]
  rfl

end

end

end Session
end TwoMlsPq
