import TwoMlsPq.Session.Restarts

/-!
# Attachment components

The component of an epoch is derived once and then read back from its ledger.  A
component that was exported stays the component of its epoch: every later export that
succeeds gives it again, after its epoch was passed, after its entry was pushed out,
and after a restart from the sink.
-/

namespace TwoMlsPq
namespace Session

open Foundation Apq

section

variable {M : MlsRs} {α : Type}

/-!
## Answers that were pushed
-/

theorem pushed_grows {t t' : TwoMlsPqSession M}
    (run : Run TwoMlsPqSession.live (fun _ _ => True) t t') :
    exists more, t'.pushed = t.pushed ++ more := by
  have hcarries : Carries (M := M) (fun _ pushed => exists more, pushed = t.pushed ++ more)
      (fun _ pushed => exists more, pushed = t.pushed ++ more) :=
    { unbumped := fun _ => (Bodies.ofMoved fun _ _ _ h => h).toUnbumped
      bodiesRipe := fun _ => Bodies.ofMoved fun _ _ _ h => h
      counts := fun _ _ h _ => h
      exhausts := fun _ _ h _ => h
      unripe := fun _ _ h => h
      pushes := fun _ _ _ _ pushed h _ => by
        rcases h with ⟨more, rfl⟩
        exact ⟨_, List.append_assoc _ _ _⟩
      checkpoints := fun _ _ _ pushed h _ => by
        rcases h with ⟨more, rfl⟩
        exact ⟨_, List.append_assoc _ _ _⟩ }
  refine run.invariant
    (I := Carried fun _ pushed => exists more, pushed = t.pushed ++ more)
    (fun u a h _ => ?_) ⟨[], (List.append_nil _).symm⟩
  refine hcarries.live (fun u h => ?_) (fun u h => ?_) a h
  · unfold TwoMlsPqSession.restarted
    split
    · exact h
    · exact h
  · unfold TwoMlsPqSession.reopened
    split
    · exact h
    · split
      · exact h
      · exact h

theorem mutateAndPersist_answers {kind : BlobKind} {x : SessionOp M α}
    {t t' : TwoMlsPqSession M} {a : α} (sink : t.sinkInstalled = true)
    (counter : t.inner.stateSeq < maxSeq)
    (h : (mutateAndPersist kind x).run t = (.ok a, t')) :
    exists s archive, x.run (bumped t).inner = (.ok a, s) ∧
      (encodeBlob kind).run s = (.ok archive, t'.inner) ∧
        t'.pushed =
          t.pushed ++ [{ seq := t'.inner.stateSeq, kind := kind, archive := archive }] := by
  have hstate := run_mutateAndPersist_state (k := kind) (x := x) counter
  have hresult := run_mutateAndPersist_result (k := kind) (x := x) counter
  rw [h] at hstate hresult
  unfold mutated at hstate hresult
  rcases hrun : x.run (bumped t).inner with ⟨r, s⟩
  rw [hrun] at hstate hresult
  unfold encodeAndPush at hstate hresult
  rw [Op.run_bind, Op.run_state] at hstate hresult
  dsimp only at hstate hresult
  have hsink : (bumped t).sinkInstalled = true := sink
  rw [if_pos hsink, Op.run_bind] at hstate hresult
  unfold locked at hstate hresult
  rw [Op.run_ofResult] at hstate hresult
  rcases hencode : (encodeBlob kind).run s with ⟨re, s'⟩
  rw [hencode] at hstate hresult
  cases r with
  | error e => cases hresult
  | ok b =>
      cases re with
      | error e => cases hresult
      | ok archive =>
          cases hresult
          cases hstate
          exact ⟨s, archive, rfl, hencode, rfl⟩

/-- A session descends from every answer it gave, where the answer was pushed. -/
theorem answered_descends (L : Lawful M) {kind : BlobKind} {x : SessionOp M α}
    (hx : forall s, Moved s (x.run s).2) {s : SessionInner M}
    {t t' u : TwoMlsPqSession M} {a : α}
    (life : Run TwoMlsPqSession.live (fun _ _ => True) (TwoMlsPqSession.fresh s) t)
    (sink : t.sinkInstalled = true) (counter : t.inner.stateSeq < maxSeq)
    (h : (mutateAndPersist kind x).run t = (.ok a, t'))
    (onward : Run TwoMlsPqSession.live (fun _ _ => True) t' u)
    (unexhausted : Unexhausted u.pushed) : Descends t'.inner u.inner := by
  rcases pushed_grows onward with ⟨more, hgrown⟩
  rcases mutateAndPersist_answers sink counter h with
    ⟨s₁, archive, hbody, hencode, hpushed⟩
  have hunexhausted : Unexhausted t.pushed := by
    intro p hp
    refine unexhausted p ?_
    rw [hgrown, hpushed]
    exact List.mem_append_left _ (List.mem_append_left _ hp)
  rcases journaled_life L life hunexhausted with ⟨shown, hrecorded⟩
  have hmoved : Moved (bumped t).inner s₁ := by
    have hrun := hx (bumped t).inner
    rw [hbody] at hrun
    exact hrun
  have hdescends : Descends (bumped t).inner t'.inner :=
    hmoved.descends.trans (encodeBlob_moved hencode).descends
  have hnow := hrecorded.descend ((descends_counted t.inner).trans hdescends)
  have hshown : Recorded t'.inner t'.pushed (([] ++ shown) ++ [t'.inner]) := by
    rw [hpushed]
    refine hnow.push (encodeBlob_shows L hencode) fun q hq => Or.inl ?_
    exact Nat.lt_of_lt_of_le (Nat.lt_succ_of_le (hrecorded.seq_le L hq))
      (hdescends.counter L)
  have hstart : Carried (Journaled (([] ++ shown) ++ [t'.inner])) t' :=
    fun _ => ⟨[], by rw [List.append_nil]; exact hshown⟩
  rcases journaled_run L hstart onward unexhausted with ⟨later, hlater⟩
  refine hlater.journal.now_after ?_
  exact List.mem_append_left _ (List.mem_append_right _ (List.mem_singleton_self _))

/-!
## Components that stay
-/

/-- The windows hold, and the recv window holds the component for good. -/
def RecvFixed (epoch : Nat) (component : Bytes) (b : Books) : Prop :=
  b.Windowed ∧
    Fixed (b.epoch .recvClassical) b.ledger.recvAttachmentLedger epoch component

def SendFixed (epoch : Nat) (component : Bytes) (b : Books) : Prop :=
  b.Windowed ∧
    Fixed (b.epoch .sendClassical) b.ledger.sendAttachmentLedger epoch component

theorem RecvFixed.step {epoch : Nat} {component : Bytes} (b b' : Books)
    (hstep : BookStep b b') (h : RecvFixed epoch component b) :
    RecvFixed epoch component b' := by
  refine ⟨h.1.step hstep, ?_⟩
  cases hstep with
  | advance later => exact h.2.later (later .recvClassical)
  | @attachRecv now _ current new =>
      have hdated := h.1.recvAttachments
      have hfixed := h.2
      rw [current] at hdated hfixed
      change Fixed (b.epoch .recvClassical) (ledgerAttachmentComponent _ _ _) _ _
      rw [current, ledgerAttachmentComponent_new new]
      exact hfixed.push hdated (new_ofHasEpoch new) _ (newest_sublist _ _)
  | _ => exact h.2

theorem SendFixed.step {epoch : Nat} {component : Bytes} (b b' : Books)
    (hstep : BookStep b b') (h : SendFixed epoch component b) :
    SendFixed epoch component b' := by
  refine ⟨h.1.step hstep, ?_⟩
  cases hstep with
  | advance later => exact h.2.later (later .sendClassical)
  | @attachSend now _ current new =>
      have hdated := h.1.sendAttachments
      have hfixed := h.2
      rw [current] at hdated hfixed
      change Fixed (b.epoch .sendClassical) (ledgerAttachmentComponent _ _ _) _ _
      rw [current, ledgerAttachmentComponent_new new]
      exact hfixed.push hdated (new_ofHasEpoch new) _ (newest_sublist _ _)
  | _ => exact h.2

theorem mem_ledgerAttachmentComponent {epoch : Nat} {component : Bytes}
    {ledger : List (Nat × Bytes)} (h : hasEpoch ledger epoch = false) :
    (epoch, component) ∈ ledgerAttachmentComponent epoch component ledger := by
  rw [ledgerAttachmentComponent_new h]
  have hlast := newest_getLast (n := attachmentLedgerWindow) (by decide)
    (ledger ++ [(epoch, component)])
  rw [List.getLast?_concat] at hlast
  exact List.mem_of_getLast? hlast

theorem mem_ofFind {ledger : List (Nat × Bytes)} {epoch : Nat} {entry : Nat × Bytes}
    (h : ledger.find? (fun e => e.1 == epoch) = some entry) :
    (epoch, entry.2) ∈ ledger := by
  have hmatch : (entry.1 == epoch) = true :=
    List.find?_some (p := fun e : Nat × Bytes => e.1 == epoch) h
  have hepoch := beq_iff_eq.mp hmatch
  rw [<- hepoch]
  exact List.mem_of_find?_eq_some h

section

variable (L : Lawful M)
include L

theorem recvAttachmentComponent_mem {epoch : Nat} {s s' : SessionInner M} {c : Bytes}
    (h : (recvAttachmentComponent epoch).run s = (.ok c, s')) :
    (epoch, c) ∈ s'.ledger.recvAttachmentLedger := by
  unfold recvAttachmentComponent at h
  rw [Op.run_bind_ok (Op.run_state s)] at h
  split at h
  next entry hfind =>
    cases h
    exact mem_ofFind hfind
  next hfind =>
    split at h
    next =>
      unfold Op.mapError at h
      rw [Op.run_ofResult] at h
      rcases hrun : (captureRecvAttachmentComponent epoch).run s with ⟨r, s₁⟩
      rw [hrun] at h
      cases r with
      | error e => cases h
      | ok component =>
          cases h
          unfold captureRecvAttachmentComponent at hrun
          rcases Op.bind_ok hrun with ⟨component, s₂, hexport, hcapture⟩
          have hbooks := untold_exportAttachment L .recvClassical
            .attachmentComponentUnavailable s
          rw [hexport] at hbooks
          have hledger : s₂.ledger = s.ledger := congrArg Books.ledger hbooks
          rcases Op.bind_ok hcapture with ⟨_, s₃, hupdate, hanswer⟩
          cases hupdate
          cases hanswer
          refine mem_ledgerAttachmentComponent ?_
          rw [hledger]
          exact hasEpoch_ofFind hfind
    next => cases h

omit L in
theorem readHalf_found {half : Half} {e : TwoMlsPqError} {s s' : SessionInner M}
    {g : M.Group} (h : (readHalf half e).run s = (.ok g, s')) :
    s' = s ∧ s.half half = some g := by
  unfold readHalf at h
  rw [Op.run_bind_ok (Op.run_state s)] at h
  rcases Op.ofOption_ok h with ⟨held, rfl⟩
  exact ⟨rfl, held⟩

theorem sendAttachmentComponent_mem {s s' : SessionInner M} {c : Bytes}
    (h : (sendAttachmentComponent).run s = (.ok c, s')) :
    exists epoch, s.epoch .sendClassical = some epoch ∧
      (epoch, c) ∈ s'.ledger.sendAttachmentLedger := by
  unfold sendAttachmentComponent at h
  rcases Op.bind_ok h with ⟨g, s₀, hread, hrest⟩
  rcases readHalf_found hread with ⟨hsame, held⟩
  rw [hsame] at hrest
  dsimp only at hrest
  rw [Op.run_bind_ok (Op.run_state s)] at hrest
  refine ⟨M.currentEpoch g, ?_, ?_⟩
  · unfold SessionInner.epoch
    rw [held]
    rfl
  split at hrest
  next entry hfind =>
    cases hrest
    exact mem_ofFind hfind
  next hfind =>
    rcases Op.bind_ok hrest with ⟨component, s₂, hexport, hcapture⟩
    have hbooks := untold_exportAttachment L .sendClassical .sessionNotReady s
    rw [hexport] at hbooks
    have hledger : s₂.ledger = s.ledger := congrArg Books.ledger hbooks
    rcases Op.bind_ok hcapture with ⟨_, s₃, hupdate, hanswer⟩
    cases hupdate
    cases hanswer
    refine mem_ledgerAttachmentComponent ?_
    rw [hledger]
    exact hasEpoch_ofFind hfind

/-!
## Exports over a life
-/

omit L in
theorem descends_started (t : TwoMlsPqSession M) : Descends t.inner (started t) := by
  unfold started
  split
  · exact descends_counted t.inner
  · exact Descends.refl t.inner

theorem answered_books {J : Books -> Prop}
    (hstep : forall b b', BookStep b b' -> J b -> J b') {kind : BlobKind}
    {x : SessionOp M α} (hx : forall s, Moved s (x.run s).2) {s : SessionInner M}
    {t t' u u' : TwoMlsPqSession M} {a a' : α}
    (life : Run TwoMlsPqSession.live (fun _ _ => True) (TwoMlsPqSession.fresh s) t)
    (sink : t.sinkInstalled = true) (counter : t.inner.stateSeq < maxSeq)
    (h : (mutateAndPersist kind x).run t = (.ok a, t'))
    (hJ : forall s₁, x.run (bumped t).inner = (.ok a, s₁) -> J s₁.books)
    (onward : Run TwoMlsPqSession.live (fun _ _ => True) t' u)
    (unexhausted : Unexhausted u.pushed)
    (again : (mutateAndPersist kind x).run u = (.ok a', u')) :
    exists s₂, x.run (started u) = (.ok a', s₂) ∧ J s₂.books := by
  have hlasts := lasts_ofBooks (M := M) L hstep
  rcases mutateAndPersist_answers sink counter h with ⟨s₁, _, hbody, hencode, _⟩
  have hpushed := (encodeBlob_moved hencode).descends _ hlasts (hJ s₁ hbody)
  have hlater := answered_descends L hx life sink counter h onward unexhausted _ hlasts hpushed
  have hstarted := descends_started u _ hlasts hlater
  have hrun := (mutateAndPersist_started L kind x u).2 a' (by rw [again])
  have hmoved := (hx (started u)).descends _ hlasts hstarted
  rcases hagain : x.run (started u) with ⟨r, s₂⟩
  rw [hagain] at hrun hmoved
  cases hrun
  exact ⟨s₂, rfl, hmoved⟩

omit L in
theorem export_expands {kind : BlobKind} {x : SessionOp M Bytes} {keyId c : Bytes}
    {t t' : TwoMlsPqSession M}
    (h : (do
        let component <- mutateAndPersist kind x
        Op.ofExcept (attachmentCek M component keyId) : ApiOp M Bytes).run t =
      (.ok c, t')) :
    exists component, (mutateAndPersist kind x).run t = (.ok component, t') ∧
      attachmentCek M component keyId = .ok c := by
  rcases Op.bind_ok h with ⟨component, t₁, hexport, hexpand⟩
  rw [Op.run_ofExcept] at hexpand
  have hsame : t₁ = t' := congrArg Prod.snd hexpand
  rw [hsame] at hexport
  exact ⟨component, hexport, congrArg Prod.fst hexpand⟩

section

variable {s : SessionInner M} (born : Born s) {t : TwoMlsPqSession M}
  (life : Run TwoMlsPqSession.live (fun _ _ => True) (TwoMlsPqSession.fresh s) t)

include born life

theorem windowed_ran {x : SessionOp M α} {a : α} {s₁ : SessionInner M}
    (hx : forall s, Moved s (x.run s).2) (h : x.run (bumped t).inner = (.ok a, s₁)) :
    s₁.books.Windowed := by
  have hwindowed : (bumped t).inner.books.Windowed :=
    ((lasting_windowed L).life (windowed_born L born) life).step BookStep.count
  have hmoved := hx (bumped t).inner
  rw [h] at hmoved
  exact hmoved.descends (fun s => s.books.Windowed)
    (lasts_ofBooks L fun _ _ hstep hb => hb.step hstep) hwindowed

variable (sink : t.sinkInstalled = true) (counter : t.inner.stateSeq < maxSeq)
  {c c' : Bytes} {t' u u' : TwoMlsPqSession M}
  (onward : Run TwoMlsPqSession.live (fun _ _ => True) t' u)
  (unexhausted : Unexhausted u.pushed)

include sink counter onward unexhausted

/-- Once a receive export was pushed, the same epoch is always exported alike. -/
theorem recv_components_agree {epoch : Nat}
    (exported : (mutateAndPersist .core (recvAttachmentComponent epoch)).run t = (.ok c, t'))
    (again : (mutateAndPersist .core (recvAttachmentComponent epoch)).run u =
      (.ok c', u')) :
    c' = c := by
  have hmoved : forall s : SessionInner M,
      Moved s ((recvAttachmentComponent epoch).run s).2 :=
    fun s I hI hs => hI.exportsRecv epoch s hs
  have hfirst : forall s₁, (recvAttachmentComponent epoch).run (bumped t).inner =
      (.ok c, s₁) -> RecvFixed epoch c s₁.books := by
    intro s₁ hbody
    have hw := windowed_ran L born life hmoved hbody
    exact ⟨hw, Fixed.ofMem hw.recvAttachments (recvAttachmentComponent_mem L hbody)⟩
  rcases answered_books L RecvFixed.step hmoved life sink counter exported hfirst onward
    unexhausted again with ⟨s₂, hbody₂, hfixed⟩
  exact hfixed.2.sole c' (recvAttachmentComponent_mem L hbody₂)

/-- So is the send epoch, as long as it stays. -/
theorem send_components_agree
    (exported : (mutateAndPersist .core sendAttachmentComponent).run t = (.ok c, t'))
    (same : u.inner.epoch .sendClassical = t.inner.epoch .sendClassical)
    (again : (mutateAndPersist .core sendAttachmentComponent).run u = (.ok c', u')) :
    c' = c := by
  have hmoved : forall s : SessionInner M, Moved s ((sendAttachmentComponent).run s).2 :=
    fun s I hI hs => hI.exportsSend s hs
  rcases mutateAndPersist_answers sink counter exported with ⟨s₁, _, hbody, _, _⟩
  rcases sendAttachmentComponent_mem L hbody with ⟨epoch, hepoch, hmem⟩
  have hfirst : forall s₁, (sendAttachmentComponent).run (bumped t).inner =
      (.ok c, s₁) -> SendFixed epoch c s₁.books := by
    intro s' hbody'
    rw [hbody] at hbody'
    cases hbody'
    have hw := windowed_ran L born life hmoved hbody
    exact ⟨hw, Fixed.ofMem hw.sendAttachments hmem⟩
  rcases answered_books L SendFixed.step hmoved life sink counter exported hfirst onward
    unexhausted again with ⟨s₂, hbody₂, hfixed⟩
  rcases sendAttachmentComponent_mem L hbody₂ with ⟨epoch₂, hepoch₂, hmem₂⟩
  have hnow : u.inner.epoch .sendClassical = some epoch₂ := by
    unfold started at hepoch₂
    split at hepoch₂
    · exact hepoch₂
    · exact hepoch₂
  rw [same] at hnow
  have hboth : epoch₂ = epoch := Option.some.inj (hnow.symm.trans hepoch)
  rw [hboth] at hmem₂
  exact hfixed.2.sole c' hmem₂

end

/-- Once an export was pushed, every later export of its epoch that succeeds expands
the same component, so that the same key id gives the same key. -/
theorem attachment_components_agree {s : SessionInner M} (born : Born s)
    {t : TwoMlsPqSession M}
    (life : Run TwoMlsPqSession.live (fun _ _ => True) (TwoMlsPqSession.fresh s) t)
    (sink : t.sinkInstalled = true) (counter : t.inner.stateSeq < maxSeq) :
    (forall epoch keyId c t', (exportAttachmentCekRecv keyId epoch).run t = (.ok c, t') ->
      exists component, attachmentCek M component keyId = .ok c ∧
        forall keyId' c' u u', Run TwoMlsPqSession.live (fun _ _ => True) t' u ->
          Unexhausted u.pushed ->
            (exportAttachmentCekRecv keyId' epoch).run u = (.ok c', u') ->
              attachmentCek M component keyId' = .ok c') ∧
    (forall keyId c t', (exportAttachmentCekSend keyId).run t = (.ok c, t') ->
      exists component, attachmentCek M component keyId = .ok c ∧
        forall keyId' c' u u', Run TwoMlsPqSession.live (fun _ _ => True) t' u ->
          Unexhausted u.pushed ->
            u.inner.epoch .sendClassical = t.inner.epoch .sendClassical ->
              (exportAttachmentCekSend keyId').run u = (.ok c', u') ->
                attachmentCek M component keyId' = .ok c') := by
  constructor
  · intro epoch keyId c t' hcek
    rcases export_expands hcek with ⟨component, hexport, hkey⟩
    refine ⟨component, hkey, fun keyId' c' u u' onward unexhausted hcek' => ?_⟩
    rcases export_expands hcek' with ⟨component', hagain, hkey'⟩
    rw [← recv_components_agree L born life sink counter onward unexhausted hexport hagain]
    exact hkey'
  · intro keyId c t' hcek
    rcases export_expands hcek with ⟨component, hexport, hkey⟩
    refine ⟨component, hkey, fun keyId' c' u u' onward unexhausted hsame hcek' => ?_⟩
    rcases export_expands hcek' with ⟨component', hagain, hkey'⟩
    rw [← send_components_agree L born life sink counter onward unexhausted hexport hsame
      hagain]
    exact hkey'

end

end

namespace ReferencePair

def componentExport : Result Bytes × TwoMlsPqSession Reference.mls :=
  (exportAttachmentCekRecv [7] 1).run greetedSession

def restartedExport : Result Bytes × TwoMlsPqSession Reference.mls :=
  (exportAttachmentCekRecv [7] 1).run componentExport.2.restarted

theorem exports_states :
    greetedSession.sinkInstalled = true ∧ greetedSession.inner.stateSeq < maxSeq ∧
      componentExport.1.toOption.isSome = true ∧
        restartedExport.1.toOption.isSome = true ∧
          componentExport.2.restarted.pushed.all
            (fun p => decide (p.seq < maxSeq)) = true := by
  decide +kernel

end ReferencePair

set_option maxRecDepth 4000 in
/-- The initiator exports an attachment's key, restarts and exports it again. -/
theorem restarted_component_agrees :
    exists c, ReferencePair.componentExport.1 = .ok c ∧
      ReferencePair.restartedExport.1 = .ok c := by
  rcases ReferencePair.exports_states with ⟨hsink, hcounter, hfirst, hagain, hunexhausted⟩
  have hexport := ReferencePair.eq_ok_of_isSome hfirst
  have hexported := ReferencePair.eq_ok_of_isSome hagain
  rcases (attachment_components_agree Reference.lawful ReferencePair.initiator_born
    ReferencePair.greeted_run hsink hcounter).1 1 [7] _ ReferencePair.componentExport.2
      (Prod.ext hexport rfl) with ⟨component, hkey, hlater⟩
  have hkey' := hlater [7] _ ReferencePair.componentExport.2.restarted
    ReferencePair.restartedExport.2 (run_restarted Run.refl)
    (fun p hp => of_decide_eq_true (List.all_eq_true.mp hunexhausted p hp))
    (Prod.ext hexported rfl)
  refine ⟨_, hexport, hexported.trans ?_⟩
  exact hkey'.symm.trans hkey

end Session
end TwoMlsPq
