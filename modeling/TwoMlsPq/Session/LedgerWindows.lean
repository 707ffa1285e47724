import TwoMlsPq.Session.LedgerPaths

/-!
# The windows of a session

In every moment of every life the ledgers are windows: their dates ascend, none lies
ahead of the clock that dates it, and the bounded ones are within their bounds.  The
addresses a session listens on and the header keys it opens with have the same dates.
-/

namespace TwoMlsPq
namespace Session

open Foundation Apq

section

variable {M : MlsRs} {α : Type}

/-!
## Placing and evicting
-/

theorem insertEpoch_eq_place (epoch : Nat) (value : α) (entries : List (Nat × α)) :
    insertEpoch epoch value entries = Ordered.place Prod.fst (epoch, value) entries := by
  induction entries with
  | nil => rfl
  | cons e rest ih =>
      unfold insertEpoch Ordered.place
      rw [ih]

theorem new_ofHasEpoch {entries : List (Nat × α)} {epoch : Nat}
    (h : hasEpoch entries epoch = false) :
    forall e, e ∈ entries -> e.1 ≠ epoch := by
  intro e he heq
  unfold hasEpoch at h
  rw [List.any_eq_false] at h
  apply h e he
  rw [heq]
  exact beq_self_eq_true epoch

theorem ledgerAttachmentComponent_new {epoch : Nat} {component : Bytes}
    {entries : List (Nat × Bytes)} (h : hasEpoch entries epoch = false) :
    ledgerAttachmentComponent epoch component entries =
      newest attachmentLedgerWindow (entries ++ [(epoch, component)]) := by
  unfold ledgerAttachmentComponent
  rw [if_neg (Bool.eq_false_iff.mp h)]
  rfl

/-!
## The invariant
-/

structure Books.Windowed (b : Books) : Prop where
  sendPsks : Dated (b.epoch .sendClassical) b.ledger.sendPskLedger
  sendPsksBound : b.ledger.sendPskLedger.length <= sendPskWindow
  sendAttachments : Dated (b.epoch .sendClassical) b.ledger.sendAttachmentLedger
  sendAttachmentsBound :
    b.ledger.sendAttachmentLedger.length <= attachmentLedgerWindow
  recvAttachments : Dated (b.epoch .recvClassical) b.ledger.recvAttachmentLedger
  recvAttachmentsBound :
    b.ledger.recvAttachmentLedger.length <= attachmentLedgerWindow
  addresses : Dated (b.epoch .sendClassical) b.ledger.listenRendezvous
  paired :
    b.ledger.listenRendezvous.map Prod.fst = b.ledger.recvHeaderKeys.map Prod.fst
  headersPq : Dated (b.epoch .sendPq) b.ledger.recvHeaderKeysPq
  headersPqBound : b.ledger.recvHeaderKeysPq.length <= pqHeaderWindow
  injected : forall epoch, b.ledger.lastCrossInjected = some epoch ->
    Past (b.epoch .recvClassical) epoch

namespace Books

theorem Windowed.headers {b : Books} (h : b.Windowed) :
    Dated (b.epoch .sendClassical) b.ledger.recvHeaderKeys := by
  constructor
  · have hascending := List.pairwise_map.mpr h.addresses.ascending
    rw [h.paired] at hascending
    exact List.pairwise_map.mp hascending
  · intro e he
    have hdate : e.1 ∈ b.ledger.listenRendezvous.map Prod.fst := by
      rw [h.paired]
      exact List.mem_map_of_mem he
    rcases List.mem_map.mp hdate with ⟨e', he', heq⟩
    rw [<- heq]
    exact h.addresses.past e' he'

theorem paired_filter {entries keys : List (Nat × Bytes)} (keep : Nat -> Bool)
    (h : entries.map Prod.fst = keys.map Prod.fst) :
    (entries.filter fun e => keep e.1).map Prod.fst =
      (keys.filter fun e => keep e.1).map Prod.fst := by
  have hfilter : forall l : List (Nat × Bytes),
      (l.filter fun e => keep e.1).map Prod.fst = (l.map Prod.fst).filter keep :=
    fun l => (List.filter_map ..).symm
  rw [hfilter, hfilter, h]

theorem Windowed.step {b b' : Books} (h : b.Windowed) (hstep : BookStep b b') :
    b'.Windowed := by
  cases hstep with
  | advance later =>
      exact
        { h with
          sendPsks := h.sendPsks.later (later _)
          sendAttachments := h.sendAttachments.later (later _)
          recvAttachments := h.recvAttachments.later (later _)
          addresses := h.addresses.later (later _)
          headersPq := h.headersPq.later (later _)
          injected := fun epoch hlast => (h.injected epoch hlast).later (later _) }
  | count => exact { h with }
  | track => exact { h with }
  | drain => exact { h with }
  | rememberPsk now new =>
      have hdated := h.sendPsks
      rw [now] at hdated
      refine { h with sendPsks := ?_, sendPsksBound := newest_length _ _ }
      change Dated (b.epoch .sendClassical) _
      rw [now]
      exact (hdated.append (new_ofHasEpoch new) _).forget (newest_sublist _ _)
  | attachSend now new =>
      have hdated := h.sendAttachments
      rw [now] at hdated
      refine { h with sendAttachments := ?_, sendAttachmentsBound := ?_ }
      · change Dated (b.epoch .sendClassical) (ledgerAttachmentComponent _ _ _)
        rw [now, ledgerAttachmentComponent_new new]
        exact (hdated.append (new_ofHasEpoch new) _).forget (newest_sublist _ _)
      · change (ledgerAttachmentComponent _ _ _).length <= _
        rw [ledgerAttachmentComponent_new new]
        exact newest_length _ _
  | attachRecv now new =>
      have hdated := h.recvAttachments
      rw [now] at hdated
      refine { h with recvAttachments := ?_, recvAttachmentsBound := ?_ }
      · change Dated (b.epoch .recvClassical) (ledgerAttachmentComponent _ _ _)
        rw [now, ledgerAttachmentComponent_new new]
        exact (hdated.append (new_ofHasEpoch new) _).forget (newest_sublist _ _)
      · change (ledgerAttachmentComponent _ _ _).length <= _
        rw [ledgerAttachmentComponent_new new]
        exact newest_length _ _
  | @listen epoch _ _ now new =>
      have hdated := h.addresses
      have hheaders := h.headers
      rw [now] at hdated hheaders
      have hnew := new_ofHasEpoch new
      have hnewHeader : forall e, e ∈ b.ledger.recvHeaderKeys ->
          e.1 ≠ epoch := by
        intro e he heq
        have hdate : e.1 ∈ b.ledger.listenRendezvous.map Prod.fst := by
          rw [h.paired]
          exact List.mem_map_of_mem he
        rcases List.mem_map.mp hdate with ⟨e', he', hsame⟩
        exact hnew e' he' (hsame.trans heq)
      refine { h with addresses := ?_, paired := ?_ }
      · change Dated (b.epoch .sendClassical) (insertEpoch _ _ _)
        rw [now, insertEpoch_eq_place, hdated.place hnew]
        exact hdated.append hnew _
      · change (insertEpoch _ _ _).map Prod.fst = (insertEpoch _ _ _).map Prod.fst
        rw [insertEpoch_eq_place, insertEpoch_eq_place, hdated.place hnew,
          hheaders.place hnewHeader, List.map_append, List.map_append, h.paired]
        rfl
  | prune current =>
      refine { h with addresses := ?_, paired := paired_filter _ h.paired }
      exact h.addresses.forget List.filter_sublist
  | listenPq now new =>
      have hdated := h.headersPq
      rw [now] at hdated
      have hnew := new_ofHasEpoch new
      refine { h with headersPq := ?_, headersPqBound := newest_length _ _ }
      change Dated (b.epoch .sendPq) (keepNewest _ (insertEpoch _ _ _))
      rw [now, insertEpoch_eq_place, hdated.place hnew]
      exact (hdated.append hnew _).forget (newest_sublist _ _)
  | injectCross now unspent =>
      refine { h with injected := fun epoch hlast => ?_ }
      cases hlast
      exact ⟨_, now, le_refl _⟩

end Books

theorem books_reborn {J : Books -> Prop}
    (hstep : forall b b', BookStep b b' -> J b -> J b') {s₀ s : SessionInner M}
    (h : Reborn s₀ s) (hs : J s₀.books) : J s.books := by
  have hbooks : s.books = s₀.books.mapLedger fun l =>
      { l with pskStores := s.client.stores, pskStoresFrom := 0 } := by
    unfold SessionInner.books Books.mapLedger
    rw [funext h.epoch, h.ledger, h.stateSeq]
  rw [hbooks]
  exact hstep _ _ BookStep.track hs

/-!
## Birth
-/

section

variable (L : Lawful M)
include L

theorem tidy_recordBirth : Tidy (recordBirth : SessionOp M Unit) :=
  Tidy.bind (tidy_rememberSendPsk L) fun _ =>
    Tidy.bind (tidy_recordListenRendezvous L) fun _ => tidy_recordPqHeaderKey

theorem tidy_initiateBirth (theirKp : CombinerKeyPackage M) (rnd : Nat -> M.Seed) :
    Tidy (initiateBirth theirKp rnd) := by
  unfold initiateBirth preCommitBootstrapKp
  refine Tidy.bind (Untold.update fun _ => rfl).tidy fun _ => ?_
  refine Tidy.bind ?_ fun _ => ?_
  · refine Tidy.looking Op.Still.state fun s => ?_
    refine Tidy.looking (Op.Still.ofExcept _) fun minted => ?_
    refine Tidy.looking (Op.Still.ofExcept _) fun kp => ?_
    exact Tidy.mapRound _
  refine Tidy.looking (still_composeInitialEnvelope _ _) fun envelope => ?_
  exact Tidy.bind (Tidy.mapMsg _) fun _ => tidy_recordBirth L

theorem tidyFrom_acceptBirth (invitationClient : Option (TwoMlsPqPrincipal M))
    (recvCrossEpoch : Nat) (commitment : Bytes) (spawnToken : Option Bytes) :
    TidyFrom (fun b => b.epoch .recvClassical = some recvCrossEpoch ∧
        b.ledger.lastCrossInjected = none)
      (acceptBirth invitationClient recvCrossEpoch commitment spawnToken :
        SessionOp M Unit) := by
  unfold acceptBirth
  refine TidyFrom.bind (Q := fun b => b.epoch .recvClassical = some recvCrossEpoch ∧
      b.ledger.lastCrossInjected = none) ?_ ?_ fun _ => ?_
  · cases invitationClient with
    | none => exact TidyFrom.ofTidy (Untold.update fun _ => rfl).tidy
    | some client => exact TidyFrom.ofTidy (tidy_trackPskStores fun _ => client)
  · intro s hs
    cases invitationClient with
    | none => exact hs
    | some client =>
        change (trackPskStores client s).books.epoch _ = _ ∧
          (trackPskStores client s).books.ledger.lastCrossInjected = none
        unfold trackPskStores
        split
        · exact hs
        · exact hs
  refine TidyFrom.bind (Q := fun _ => True) (TidyFrom.step fun s hs => ?_)
    (fun _ _ => True.intro) fun _ => ?_
  · refine BookStep.injectCross hs.1 ?_
    rw [hs.2]
    exact fun h => nomatch h
  · exact TidyFrom.ofTidy (Tidy.bind (tidy_recordBirth L) fun _ =>
      (Untold.update fun _ => rfl).tidy)

omit L in
theorem windowed_buildSession (client : TwoMlsPqPrincipal M) (services : Services)
    (sendGroup : CombinerGroup M) (recvGroup : Option (CombinerGroup M))
    (welcome : ApqWelcome M) (theirId : Bytes) (initiated : Bool)
    (digest : Option Bytes) (nextHandle : Nat) :
    (buildSession client services sendGroup recvGroup welcome theirId initiated digest
      nextHandle).books.Windowed where
  sendPsks := Dated.nothing
  sendPsksBound := Nat.zero_le _
  sendAttachments := Dated.nothing
  sendAttachmentsBound := Nat.zero_le _
  recvAttachments := Dated.nothing
  recvAttachmentsBound := Nat.zero_le _
  addresses := Dated.nothing
  paired := rfl
  headersPq := Dated.nothing
  headersPqBound := Nat.zero_le _
  injected := fun _ hlast => nomatch hlast

omit L in
theorem returns_acceptGroups_epoch (L : Lawful M)
    (client groupClient : TwoMlsPqPrincipal M) (dedicated : Option Services)
    (welcome : ApqWelcome M) (theirKp : Blob M) (theirId : Bytes)
    (expected : Option Bytes) (rnd : Nat -> M.Seed) :
    Op.Returns
      (acceptGroups client groupClient dedicated welcome theirKp theirId expected rnd)
      fun r => M.currentEpoch r.2.1.classical = r.2.2.2 := by
  unfold acceptGroups
  refine Op.Returns.bind (Op.Returns.any _) fun recv _ => ?_
  refine Op.Returns.bind (Op.Returns.any _) fun _ _ => ?_
  refine Op.Returns.bind (Op.Returns.any _) fun _ _ => ?_
  refine Op.Returns.bind (Op.Returns.any _) fun _ _ => ?_
  refine Op.Returns.bind (Op.Returns.any _) fun _ _ => ?_
  refine Op.Returns.bind (Op.Returns.any _) fun appBinding _ => ?_
  refine Op.Returns.bind (Op.Returns.any _) fun _ _ => ?_
  refine Op.Returns.bind
    (returns_createBoundClassicalSendGroup L theirKp groupClient recv.classical
      appBinding rnd) fun created hcreated => ?_
  rcases created with ⟨send, classicalWelcome, recvClassical⟩
  exact Op.Returns.value hcreated.2.2.1.epoch

omit L in
theorem initiate_built {client : TwoMlsPqPrincipal M} {services : Services}
    {theirKp : CombinerKeyPackage M} {appBinding : Option Bytes}
    {rnd : Nat -> M.Seed} {s : SessionInner M}
    (h : initiate client services theirKp appBinding rnd = .ok s) :
    exists (theirId : Bytes) (created : CombinerGroup M × ApqWelcome M)
        (services' : Services),
      (initiateBirth theirKp rnd).run (buildSession client services' created.1 none
        created.2 theirId true none (client.handle + 1)) = (.ok (), s) := by
  unfold initiate at h
  split at h
  · cases h
  simp only [bind, Except.bind] at h
  split at h
  · cases h
  split at h
  · cases h
  next their _ =>
    split at h
    · cases h
    next created services' _ =>
      split at h
      · cases h
      next s' hbirth =>
        cases h
        exact ⟨their.clientId, created, services', hbirth⟩

omit L in
theorem acceptWith_built {client : TwoMlsPqPrincipal M}
    {sessionClient : Option (TwoMlsPqPrincipal M × Services)} {services : Services}
    {welcome : WelcomeBytes M} {theirKp : Blob M} {commitment : Bytes}
    {spawnToken expected : Option Bytes} {rnd : Nat -> M.Seed}
    {s : SessionInner M}
    (h : acceptWith client sessionClient services welcome theirKp commitment
      spawnToken expected rnd = .ok s) :
    exists groupClient w theirId r services' nextHandle,
      ((acceptGroups client groupClient (sessionClient.map Prod.snd) w theirKp theirId
        expected rnd).run services).1 = .ok r ∧
      (acceptBirth (sessionClient.map fun _ => client) r.2.2.2 commitment spawnToken).run
        (buildSession groupClient services' r.1 (some r.2.1)
          { classical := r.2.2.1, pq := Blob.empty } theirId false
          (some (M.sha256 welcome.bytes)) nextHandle) = (.ok (), s) := by
  unfold acceptWith at h
  split at h
  · cases h
  split at h
  · cases h
  simp only [bind, Except.bind] at h
  split at h
  · cases h
  split at h
  · cases h
  next their _ =>
    split at h
    · cases h
    next w _ =>
      split at h
      · cases h
      split at h
      · cases h
      next send recv classicalWelcome recvCrossEpoch services' hgroups =>
        split at h
        · cases h
        next s' hbirth =>
          cases h
          exact ⟨_, w, their.clientId, (send, recv, classicalWelcome, recvCrossEpoch),
            services', _, congrArg Prod.fst hgroups, hbirth⟩

theorem windowed_initiate {client : TwoMlsPqPrincipal M} {services : Services}
    {theirKp : CombinerKeyPackage M} {appBinding : Option Bytes}
    {rnd : Nat -> M.Seed} {s : SessionInner M}
    (h : initiate client services theirKp appBinding rnd = .ok s) :
    s.books.Windowed := by
  rcases initiate_built h with ⟨theirId, created, services', hbirth⟩
  have hpath := tidy_initiateBirth L theirKp rnd (buildSession client services'
    created.1 none created.2 theirId true none (client.handle + 1))
  unfold BookMove at hpath
  rw [hbirth] at hpath
  exact hpath.invariant (fun _ _ hstep hb => hb.step hstep) (windowed_buildSession ..)

theorem windowed_acceptWith {client : TwoMlsPqPrincipal M}
    {sessionClient : Option (TwoMlsPqPrincipal M × Services)} {services : Services}
    {welcome : WelcomeBytes M} {theirKp : Blob M} {commitment : Bytes}
    {spawnToken expected : Option Bytes} {rnd : Nat -> M.Seed}
    {s : SessionInner M}
    (h : acceptWith client sessionClient services welcome theirKp commitment
      spawnToken expected rnd = .ok s) : s.books.Windowed := by
  rcases acceptWith_built h with
    ⟨groupClient, w, theirId, r, services', nextHandle, hgroups, hbirth⟩
  have hepoch := returns_acceptGroups_epoch L client groupClient _ w theirKp theirId
    expected rnd services r hgroups
  have hpath := tidyFrom_acceptBirth L (sessionClient.map fun _ => client) r.2.2.2
    commitment spawnToken (buildSession groupClient services' r.1 (some r.2.1)
      { classical := r.2.2.1, pq := Blob.empty } theirId false
      (some (M.sha256 welcome.bytes)) nextHandle) ⟨congrArg some hepoch, rfl⟩
  unfold BookMove at hpath
  rw [hbirth] at hpath
  exact hpath.invariant (fun _ _ hstep hb => hb.step hstep) (windowed_buildSession ..)

theorem windowed_born {s : SessionInner M} (h : Born s) : s.books.Windowed := by
  cases h with
  | initiated h => exact windowed_initiate L h
  | accepted h => exact windowed_acceptWith L h

/-!
## Lives
-/

theorem lasting_windowed :
    Lasting (fun s : SessionInner M => s.books.Windowed)
      (Photo fun s : SessionInner M => s.books.Windowed) :=
  (bodies_ofBooks L fun _ _ hstep hb => hb.step hstep).lasting L
    (fun _ hs => hs.step BookStep.count)
    fun _ _ hs hborn => books_reborn (fun _ _ hstep hb => hb.step hstep) hborn hs

/-- At every moment of every life, restarts and reopenings included, the ledgers are
windows. -/
theorem ledgers_are_windows {s : SessionInner M} (born : Born s) {t : TwoMlsPqSession M}
    (life : Run TwoMlsPqSession.live (fun _ _ => True) (TwoMlsPqSession.fresh s) t) :
    t.inner.books.Windowed :=
  (lasting_windowed L).life (windowed_born L born) life

end

end

namespace ReferencePair

/-- The initiator after one message each way. -/
def greetedSession : TwoMlsPqSession Reference.mls :=
  (world.play greeting).session .left

set_option maxRecDepth 4000 in
theorem greeted_run :
    Run TwoMlsPqSession.live (fun _ _ => True) (TwoMlsPqSession.fresh initiator)
      greetedSession :=
  World.run_live .left (World.run_played world greeting)

end ReferencePair

theorem greeted_ledgers_are_windows :
    ReferencePair.greetedSession.inner.books.Windowed :=
  ledgers_are_windows Reference.lawful ReferencePair.initiator_born
    ReferencePair.greeted_run

end Session
end TwoMlsPq
