import TwoMlsPq.Session.StableSeal

/-!
# What the PSK stores resolve

The cross-party PSKs of our send group are put into the stores of the current client
and of the group handles before a commit of the peer is applied, and a retired one is
deleted from the same stores.  A store that has left them in between keeps what it
holds: of the stores the session tracks only the reachable ones are cleaned.
-/

namespace TwoMlsPq
namespace Session

open Foundation Apq

/-!
## Registering and deleting
-/

theorem foldl_stores (h : PskHeap) (stores : List StoreId) (id : PskId)
    (value : Option Bytes) (store : StoreId) (i : PskId) :
    stores.foldl
        (fun heap place => fun st j => if st = place ∧ j = id then value else heap st j)
        h store i =
      if store ∈ stores ∧ i = id then value else h store i := by
  induction stores generalizing h with
  | nil => simp
  | cons first rest ih =>
      rw [List.foldl_cons, ih]
      by_cases hrest : store ∈ rest ∧ i = id
      · rw [if_pos hrest, if_pos ⟨List.mem_cons_of_mem _ hrest.1, hrest.2⟩]
      · rw [if_neg hrest]
        by_cases hfirst : store = first ∧ i = id
        · rw [if_pos hfirst, if_pos ⟨List.mem_cons.mpr (Or.inl hfirst.1), hfirst.2⟩]
        · rw [if_neg hfirst, if_neg]
          rintro ⟨hmem, hid⟩
          rcases List.mem_cons.mp hmem with heq | hmem
          · exact hfirst ⟨heq, hid⟩
          · exact hrest ⟨hmem, hid⟩

theorem register_apply (h : PskHeap) (stores : List StoreId) (id : PskId)
    (psk : Bytes) (store : StoreId) (i : PskId) :
    h.register stores id psk store i =
      if store ∈ stores ∧ i = id then some psk else h store i :=
  foldl_stores h stores id (some psk) store i

theorem forget_apply (h : PskHeap) (stores : List StoreId) (id : PskId)
    (store : StoreId) (i : PskId) :
    h.forget stores id store i =
      if store ∈ stores ∧ i = id then none else h store i :=
  foldl_stores h stores id none store i

section

variable {M : MlsRs} {α : Type}

/-!
## Our PSKs
-/

def IsCrossParty (id : PskId) : Prop :=
  exists pskId, id = .application PskDomain.crossParty.componentId pskId

def ledgerIds (s : SessionInner M) : List PskId :=
  s.ledger.sendPskLedger.map fun entry => entry.2.storageId

/-- Every store the session tracks: those of its clients, and those its group handles
have captured. -/
def trackedStores (s : SessionInner M) : List StoreId :=
  s.ledger.pskStores ++ (s.recvGroup.map CombinerGroup.stores).getD [] ++
    (s.sendGroup.map CombinerGroup.stores).getD []

/-- Of the given PSKs, the tracked stores resolve only those of the ledger. -/
def Vouches (ours : PskId -> Prop) (s : SessionInner M) : Prop :=
  forall store, store ∈ trackedStores s -> forall id, ours id ->
    s.services.psks store id ≠ none -> id ∈ ledgerIds s

/-- No other half of the session exports one of the given PSKs. -/
def Apart (ours : PskId -> Prop) (s : SessionInner M) : Prop :=
  forall h, h ≠ .sendClassical -> forall g, s.half h = some g ->
    forall e, ((exportPsk .crossParty).run g).1 = .ok e -> ¬ ours e.storageId

def HoldsOnly (psks : PskHeap) (ours : PskId -> Prop) (P : StoreId -> PskId -> Prop) :
    Prop :=
  forall store id, ours id -> psks store id ≠ none -> P store id

section

variable {psks : PskHeap} {ours : PskId -> Prop} {P : StoreId -> PskId -> Prop}

theorem HoldsOnly.mono {Q : StoreId -> PskId -> Prop} (h : HoldsOnly psks ours P)
    (hPQ : forall store id, P store id -> Q store id) : HoldsOnly psks ours Q :=
  fun store id hours hheld => hPQ store id (h store id hours hheld)

theorem HoldsOnly.register (h : HoldsOnly psks ours P) {stores : List StoreId}
    {id : PskId} (psk : Bytes)
    (hnew : ours id -> forall store, store ∈ stores -> P store id) :
    HoldsOnly (psks.register stores id psk) ours P := by
  intro store i hours hheld
  rw [register_apply] at hheld
  split at hheld
  next hplaced =>
    rcases hplaced with ⟨hmem, rfl⟩
    exact hnew hours store hmem
  next => exact h store i hours hheld

theorem HoldsOnly.forget (h : HoldsOnly psks ours P) (stores : List StoreId)
    (id : PskId) : HoldsOnly (psks.forget stores id) ours P := by
  intro store i hours hheld
  rw [forget_apply] at hheld
  split at hheld
  next => exact absurd rfl hheld
  next => exact h store i hours hheld

theorem HoldsOnly.forgetAll (h : HoldsOnly psks ours P) (stores : List StoreId)
    (ids : List PskId) :
    HoldsOnly (ids.foldl (fun heap id => heap.forget stores id) psks) ours fun store i =>
      P store i ∧ ¬ (store ∈ stores ∧ i ∈ ids) := by
  induction ids generalizing psks P with
  | nil =>
      exact h.mono fun _ _ hP => ⟨hP, fun hmem => absurd hmem.2 List.not_mem_nil⟩
  | cons id rest ih =>
      have hfirst : HoldsOnly (psks.forget stores id) ours fun store i =>
          P store i ∧ ¬ (store ∈ stores ∧ i = id) := by
        intro store i hours hheld
        rw [forget_apply] at hheld
        split at hheld
        next => exact absurd rfl hheld
        next hkept => exact ⟨h store i hours hheld, hkept⟩
      refine (ih hfirst).mono fun store i hboth => ⟨hboth.1.1, ?_⟩
      rintro ⟨hstore, hmem⟩
      rcases List.mem_cons.mp hmem with heq | hmem
      · exact hboth.1.2 ⟨hstore, heq⟩
      · exact hboth.2 ⟨hstore, hmem⟩

end

/-- An id the ledger vouches for, or that waits to be deleted, in one of the stores a
PSK was injected into at the start. -/
def Accounted (s₀ s : SessionInner M) (store : StoreId) (id : PskId) : Prop :=
  (id ∈ ledgerIds s ∨ id ∈ s.ledger.retiredSendPsks) ∧ store ∈ injectionStores s₀

def Hygienic (ours : PskId -> Prop) (s₀ s : SessionInner M) : Prop :=
  HoldsOnly s.services.psks ours (Accounted s₀ s)

structure AtHome (ours : PskId -> Prop) (s₀ s : SessionInner M) : Prop where
  hygienic : Hygienic ours s₀ s
  home : injectionStores s = injectionStores s₀

variable {ours : PskId -> Prop} {s₀ : SessionInner M}

theorem Hygienic.congr {s₀' s s' : SessionInner M} (h : Hygienic ours s₀ s)
    (hstores : injectionStores s₀' = injectionStores s₀)
    (hheap : s'.services.psks = s.services.psks)
    (hledger : s'.ledger.sendPskLedger = s.ledger.sendPskLedger)
    (hretired : s'.ledger.retiredSendPsks = s.ledger.retiredSendPsks) :
    Hygienic ours s₀' s' := by
  unfold Hygienic Accounted ledgerIds
  rw [hheap, hledger, hretired, hstores]
  exact h

theorem Hygienic.registered {s : SessionInner M} (h : Hygienic ours s₀ s)
    (stores : List StoreId) {id : PskId} (psk : Bytes) (hother : ¬ ours id) :
    Hygienic ours s₀ (s.registerStores stores id psk) :=
  HoldsOnly.register h psk fun hours => absurd hours hother

theorem Hygienic.forgotten {s : SessionInner M} (h : Hygienic ours s₀ s)
    (stores : List StoreId) (id : PskId) :
    Hygienic ours s₀ (s.forgetStores stores id) :=
  HoldsOnly.forget h stores id

/-!
## Operations that leave the PSKs
-/

inductive PskPart where
  | book
  | places
deriving DecidableEq

def PskPart.Value : PskPart -> Type
  | .book => PskHeap × List (Nat × ExportedPsk) × List PskId
  | .places => List StoreId

def readPsks : (part : PskPart) -> SessionInner M -> part.Value
  | .book => fun s =>
      (s.services.psks, s.ledger.sendPskLedger, s.ledger.retiredSendPsks)
  | .places => injectionStores

def LeavesPsks (x : SessionOp M α) : Prop :=
  Op.Writes readPsks [.places] x

def StaysHome (x : SessionOp M α) : Prop :=
  Op.Writes readPsks [] x

theorem StaysHome.leaves {x : SessionOp M α} (hx : StaysHome x) : LeavesPsks x :=
  hx.mono (List.nil_subset _)

theorem LeavesPsks.keeps {x : SessionOp M α} (hx : LeavesPsks x) :
    Op.Keeps (Hygienic ours s₀) x := by
  intro s hs
  have hbook : readPsks .book (x.run s).2 = readPsks .book s :=
    hx s .book (by decide)
  have hledger := congrArg Prod.snd hbook
  exact hs.congr rfl (congrArg Prod.fst hbook) (congrArg Prod.fst hledger)
    (congrArg Prod.snd hledger)

theorem StaysHome.keeps {x : SessionOp M α} (hx : StaysHome x) :
    Op.Keeps (AtHome ours s₀) x := by
  intro s hs
  have hplaces : readPsks .places (x.run s).2 = readPsks .places s :=
    hx s .places List.not_mem_nil
  exact ⟨hx.leaves.keeps s hs.hygienic, hplaces.trans hs.home⟩

theorem leavesPsks_update {f : SessionInner M -> SessionInner M}
    (h : forall s, readPsks .book (f s) = readPsks .book s) :
    LeavesPsks (Op.update f) := by
  apply Op.Writes.update
  intro s part hpart
  cases part with
  | book => exact h s
  | places => exact absurd List.mem_cons_self hpart

theorem staysHome_update {f : SessionInner M -> SessionInner M}
    (h : forall s part, readPsks part (f s) = readPsks part s) :
    StaysHome (Op.update f) :=
  Op.Writes.update fun s part _ => h s part

theorem Touches.leavesPsks {W : List Slot} {x : SessionOp M α} (hx : Touches W x)
    (hservices : .services ∉ W) (hledger : .ledger ∉ W) : LeavesPsks x := by
  intro s part hpart
  cases part with
  | places => exact absurd List.mem_cons_self hpart
  | book =>
      have hsv : (x.run s).2.services = s.services := hx s .services hservices
      have hl : (x.run s).2.ledger = s.ledger := hx s .ledger hledger
      exact congrArg₂ Prod.mk (congrArg Services.psks hsv)
        (congrArg₂ Prod.mk (congrArg LedgerState.sendPskLedger hl)
          (congrArg LedgerState.retiredSendPsks hl))

theorem injectionStores_setHalf (s : SessionInner M) (h : Half) (g : M.Group) :
    injectionStores (s.setHalf h g) = injectionStores s := by
  unfold injectionStores
  cases h <;> cases hsend : s.sendGroup <;> cases hrecv : s.recvGroup <;>
    simp [SessionInner.setHalf, CombinerGroup.stores, hsend, hrecv]

theorem staysHome_groupOnly (h : Half) (missing : TwoMlsPqError)
    (y : StoreId -> HalfOp M α)
    (hy : forall store hs, ((y store).run hs).2.services = hs.services) :
    StaysHome (onHalf h missing y) := by
  intro s part _
  unfold onHalf
  rw [Op.run_ofResult]
  split
  next g store held hstore =>
    cases part with
    | places => exact injectionStores_setHalf s h _
    | book =>
        unfold readPsks
        dsimp only
        rw [hy store]
        cases h <;> rfl
  next => rfl

theorem staysHome_ofGroup (h : Half) (missing : TwoMlsPqError) (x : GroupOp M α) :
    StaysHome (onHalf h missing fun _ => HalfOp.ofGroup x) :=
  staysHome_groupOnly h missing _ fun _ _ => rfl

theorem staysHome_callHalf (h : Half) (missing : TwoMlsPqError)
    (err : MlsError -> TwoMlsPqError)
    (f : MlsEnv -> M.Group -> Except MlsError α × M.Group) :
    StaysHome (callHalf h missing err f) := by
  refine staysHome_groupOnly h missing _ fun store hs => ?_
  rw [run_call]

/-!
## Ledgers
-/

theorem leavesPsks_recordListenRendezvous :
    LeavesPsks (recordListenRendezvous : SessionOp M Unit) := by
  unfold recordListenRendezvous
  refine Op.Writes.looking Op.Still.state fun s => ?_
  split
  · exact Op.Writes.value ()
  · dsimp only
    apply Op.Writes.ite
    · exact Op.Writes.value ()
    refine Op.Writes.looking (Op.Still.ofExcept _) fun secret => ?_
    refine Op.Writes.looking (Op.Still.ofExcept _) fun header => ?_
    refine Op.Writes.bind (leavesPsks_update fun _ => rfl) fun _ => ?_
    refine Op.Writes.bind (staysHome_callHalf _ _ _ _).leaves fun _ => ?_
    refine Op.Writes.looking (still_readHalf _ _) fun g => ?_
    exact leavesPsks_update fun _ => rfl

theorem leavesPsks_recordPqHeaderKey :
    LeavesPsks (recordPqHeaderKey : SessionOp M Unit) := by
  unfold recordPqHeaderKey
  refine Op.Writes.looking Op.Still.state fun s => ?_
  split
  · exact Op.Writes.value ()
  · dsimp only
    apply Op.Writes.ite
    · exact Op.Writes.value ()
    refine Op.Writes.looking (Op.Still.ofExcept _) fun key => ?_
    exact leavesPsks_update fun _ => rfl

theorem leavesPsks_recordPqHeaderKeyPostCommit :
    LeavesPsks (recordPqHeaderKeyPostCommit : SessionOp M Unit) :=
  Op.Writes.bind leavesPsks_recordPqHeaderKey.attempt fun _ => Op.Writes.value ()

theorem leavesPsks_sendAttachmentComponent :
    LeavesPsks (sendAttachmentComponent : SessionOp M Bytes) := by
  unfold sendAttachmentComponent
  refine Op.Writes.looking (still_readHalf _ _) fun g => ?_
  refine Op.Writes.looking Op.Still.state fun s => ?_
  split
  · exact Op.Writes.value _
  · refine Op.Writes.bind (staysHome_ofGroup _ _ _).leaves fun component => ?_
    refine Op.Writes.bind (leavesPsks_update fun _ => rfl) fun _ => ?_
    exact Op.Writes.value _

theorem staysHome_captureRecvAttachmentComponent (epoch : Nat) :
    StaysHome (captureRecvAttachmentComponent epoch : SessionOp M Bytes) := by
  unfold captureRecvAttachmentComponent
  refine Op.Writes.bind (staysHome_ofGroup _ _ _) fun component => ?_
  refine Op.Writes.bind (staysHome_update fun _ part => by cases part <;> rfl)
    fun _ => ?_
  exact Op.Writes.value _

theorem staysHome_rememberRecvAttachmentComponent :
    StaysHome (rememberRecvAttachmentComponent : SessionOp M Unit) := by
  unfold rememberRecvAttachmentComponent
  refine Op.Writes.looking Op.Still.state fun s => ?_
  split
  · exact Op.Writes.value ()
  · apply Op.Writes.ite
    · exact Op.Writes.value ()
    · refine Op.Writes.bind (staysHome_captureRecvAttachmentComponent _).attempt
        fun _ => ?_
      exact Op.Writes.value ()

theorem leavesPsks_recvAttachmentComponent (epoch : Nat) :
    LeavesPsks (recvAttachmentComponent epoch : SessionOp M Bytes) := by
  unfold recvAttachmentComponent
  refine Op.Writes.looking Op.Still.state fun s => ?_
  split
  · exact Op.Writes.value _
  · apply Op.Writes.ite
    · exact (staysHome_captureRecvAttachmentComponent epoch).leaves.mapError
    · exact Op.Writes.fail _

theorem leavesPsks_encodeBlob (kind : BlobKind) :
    LeavesPsks (encodeBlob kind : SessionOp M (Archive M)) := by
  have hexported : forall h, LeavesPsks (exportHalf h : SessionOp M M.GroupSnapshot) :=
    fun h => (staysHome_callHalf h _ _ _).leaves
  have hexportedPq : forall h includePq,
      LeavesPsks (exportPqHalf h includePq : SessionOp M (Option M.GroupSnapshot)) := by
    intro h includePq
    unfold exportPqHalf
    refine Op.Writes.looking Op.Still.state fun s => ?_
    apply Op.Writes.ite
    · exact Op.Writes.bind (hexported h) fun _ => Op.Writes.value _
    · exact Op.Writes.value _
  unfold encodeBlob buildArchiveWire exportSend exportRecv
  refine Op.Writes.looking Op.Still.state fun s => ?_
  refine Op.Writes.bind ?_ fun wire => Op.Writes.value _
  refine Op.Writes.bind leavesPsks_recordListenRendezvous fun _ => ?_
  refine Op.Writes.bind ?_ fun sendGroup => ?_
  · refine Op.Writes.bind (hexported _) fun classical => ?_
    exact Op.Writes.bind (hexportedPq _ _) fun pq => Op.Writes.value _
  refine Op.Writes.bind ?_ fun recvGroup => ?_
  · refine Op.Writes.looking Op.Still.state fun s => ?_
    apply Op.Writes.ite
    · exact Op.Writes.value _
    refine Op.Writes.bind (hexported _) fun classical => ?_
    exact Op.Writes.bind (hexportedPq _ _) fun pq => Op.Writes.value _
  exact Op.Writes.looking Op.Still.state fun s => Op.Writes.value _

/-!
## The Authentication Service and the clients
-/

theorem leavesPsks_admitCandidate (newClientId : Bytes) (rnd : Nat -> M.Seed) :
    LeavesPsks (admitCandidate newClientId rnd) := by
  unfold admitCandidate stageOrDefer
  refine Op.Writes.looking (Op.Still.ensure _ _) fun _ => ?_
  refine Op.Writes.looking Op.Still.state fun s => ?_
  apply Op.Writes.ite
  · exact Op.Writes.value ()
  refine Op.Writes.bind ?_ fun _ => leavesPsks_update fun _ => rfl
  refine Op.Writes.looking Op.Still.state fun s => ?_
  apply Op.Writes.ite
  · refine Op.Writes.looking (Op.Still.ofExcept _) fun candidate => ?_
    exact leavesPsks_update fun _ => rfl
  · exact leavesPsks_update fun _ => rfl

theorem leavesPsks_selectCandidate (selected : Option Bytes) (rnd : Nat -> M.Seed) :
    LeavesPsks (selectCandidate selected rnd) := by
  unfold selectCandidate
  refine Op.Writes.looking Op.Still.state fun s => ?_
  split
  · refine Op.Writes.bind (leavesPsks_admitCandidate _ _) fun _ => ?_
    exact Op.Writes.value _
  · apply Op.Writes.ite
    · split
      · refine Op.Writes.bind (leavesPsks_update fun _ => rfl) fun _ => ?_
        refine Op.Writes.bind (leavesPsks_admitCandidate _ _) fun _ => ?_
        exact Op.Writes.value _
      · exact Op.Writes.value _
    · exact Op.Writes.value _

theorem leavesPsks_stageSelfUpdate (selected : Option Bytes) (rnd : Nat -> M.Seed) :
    LeavesPsks (stageSelfUpdate selected rnd) := by
  unfold stageSelfUpdate proposeSelfUpdate
  refine Op.Writes.bind (leavesPsks_selectCandidate _ _) fun selected => ?_
  refine Op.Writes.looking (still_proposingClient _) fun candidate => ?_
  refine Op.Writes.bind ?_ fun proposal => ?_
  · refine Op.Writes.looking (still_readHalf _ _) fun recv => ?_
    refine Op.Writes.looking (Op.Still.ofExcept _) fun leafId => ?_
    refine Op.Writes.looking Op.Still.state fun s => ?_
    refine Op.Writes.bind (staysHome_callHalf _ _ _ _).leaves fun proposal => ?_
    exact Op.Writes.still (Op.Still.ofExcept _)
  · refine Op.Writes.bind (leavesPsks_update fun _ => rfl) fun _ => ?_
    exact Op.Writes.value _

theorem leavesPsks_queueProposalInner (digest : Bytes) :
    LeavesPsks (queueProposalInner digest : SessionOp M Unit) := by
  unfold queueProposalInner
  refine Op.Writes.looking Op.Still.state fun s => ?_
  refine Op.Writes.looking (Op.Still.ofOption _ _) fun offered => ?_
  refine Op.Writes.bind (leavesPsks_update fun _ => rfl) fun _ => ?_
  apply Op.Writes.ite
  · refine Op.Writes.bind (leavesPsks_update fun _ => rfl) fun _ => ?_
    exact Op.Writes.fail _
  · refine Op.Writes.bind (Touches.leavesPsks (touches_validateOfferedUpdate _ _)
      (by decide) (by decide)).attempt fun validated => ?_
    split
    · exact leavesPsks_update fun _ => rfl
    · refine Op.Writes.bind (leavesPsks_update fun _ => rfl) fun _ => ?_
      exact Op.Writes.fail _

theorem book_trackPskStores (client : TwoMlsPqPrincipal M) (s : SessionInner M) :
    readPsks .book (trackPskStores client s) = readPsks .book s := by
  unfold trackPskStores
  split
  · rfl
  · rfl

theorem injectionStores_trackPskStores (client : TwoMlsPqPrincipal M)
    (s : SessionInner M) :
    injectionStores (trackPskStores client s) = injectionStores s := by
  unfold trackPskStores
  split
  · rfl
  · rfl

theorem leavesPsks_noteCanonicalizedOwn (canonicalizedOwn : Option Bytes) :
    LeavesPsks (noteCanonicalizedOwn canonicalizedOwn : SessionOp M Unit) := by
  unfold noteCanonicalizedOwn
  split
  · exact Op.Writes.value ()
  · refine Op.Writes.looking Op.Still.state fun s => ?_
    apply Op.Writes.ite
    · exact leavesPsks_update fun _ => rfl
    · refine Op.Writes.looking (Op.Still.ofOption _ _) fun winner => ?_
      apply leavesPsks_update
      intro s
      exact book_trackPskStores winner (s.commitMine _)

theorem leavesPsks_processMessageBody (outcome : StapleOutcome)
    (proposal : ProposalSection M) (app : M.Message) :
    LeavesPsks (processMessageBody outcome proposal app) := by
  unfold processMessageBody
  refine Op.Writes.bind (leavesPsks_update fun s => ?_) fun _ => ?_
  · cases outcome.moved.newSender with
    | none => rfl
    | some newId => rfl
  refine Op.Writes.bind (leavesPsks_noteCanonicalizedOwn _) fun _ => ?_
  refine Op.Writes.bind (Touches.leavesPsks (touches_decryptApp _) (by decide)
    (by decide)) fun received => ?_
  refine Op.Writes.looking (still_readHalf _ _) fun send => ?_
  refine Op.Writes.bind (Touches.leavesPsks (touches_recordOffer _ _ _) (by decide)
    (by decide)) fun offered => ?_
  refine Op.Writes.looking Op.Still.state fun s => ?_
  exact Op.Writes.value _

theorem leavesPsks_registerBootstrapRound (kp : Blob M) (sealed : Bool) :
    LeavesPsks (registerBootstrapRound kp sealed : SessionOp M Unit) := by
  unfold registerBootstrapRound
  refine Op.Writes.looking (Op.Still.ofExcept _) fun founding => ?_
  exact leavesPsks_update fun _ => rfl

theorem leavesPsks_bootstrapBeginInner :
    LeavesPsks (bootstrapBeginInner : SessionOp M (SideBand M)) := by
  unfold bootstrapBeginInner
  refine Op.Writes.looking Op.Still.state fun s => ?_
  refine Op.Writes.looking (Op.Still.ofOption _ _) fun kp => ?_
  dsimp only
  refine Op.Writes.looking (still_sealSideBand _) fun _ => ?_
  refine Op.Writes.bind (leavesPsks_registerBootstrapRound _ _) fun _ => ?_
  exact Op.Writes.value _

theorem leavesPsks_bootstrapEnvelopeInner (seed : M.Seed) :
    LeavesPsks (bootstrapEnvelopeInner seed : SessionOp M (SideBand M)) := by
  unfold bootstrapEnvelopeInner
  refine Op.Writes.looking Op.Still.state fun s => ?_
  refine Op.Writes.looking (Op.Still.ofOption _ _) fun theirKp => ?_
  refine Op.Writes.looking ?_ fun frame => ?_
  · split
    · exact Op.Still.value _
    · exact Op.Still.bind (Op.Still.ofOption _ _) fun _ => Op.Still.value _
  refine Op.Writes.looking (Op.Still.ofExcept _) fun _ => ?_
  refine Op.Writes.bind ?_ fun _ => Op.Writes.value _
  exact Op.Writes.ite (leavesPsks_registerBootstrapRound _ _) (Op.Writes.value ())

theorem leavesPsks_createDeferredPqHalf (kp : Blob M) (rnd : Nat -> M.Seed) :
    LeavesPsks (createDeferredPqHalf kp rnd) := by
  unfold createDeferredPqHalf
  refine Op.Writes.looking Op.Still.state fun s => ?_
  dsimp only
  refine Op.Writes.looking (Op.Still.ofOption _ _) fun send => ?_
  refine Op.Writes.looking (Op.Still.ensure _ _) fun _ => ?_
  refine Op.Writes.looking (Op.Still.ofExcept _) fun classicalInfo => ?_
  refine Op.Writes.looking (Op.Still.ofExcept _) fun created => ?_
  refine Op.Writes.bind (leavesPsks_update fun _ => rfl) fun _ => ?_
  exact Op.Writes.value _

theorem leavesPsks_bootstrapRespondInner (kp : Blob M) (rnd : Nat -> M.Seed) :
    LeavesPsks (bootstrapRespondInner kp rnd) := by
  unfold bootstrapRespondInner
  refine Op.Writes.bind (leavesPsks_update fun s => book_trackPskStores s.client s)
    fun _ => ?_
  refine Op.Writes.looking (Op.Still.ofExcept _) fun founding => ?_
  refine Op.Writes.bind (leavesPsks_update fun _ => rfl) fun _ => ?_
  refine Op.Writes.bind (leavesPsks_createDeferredPqHalf kp rnd) fun welcome => ?_
  refine Op.Writes.bind (leavesPsks_update fun _ => rfl) fun _ => ?_
  exact leavesPsks_recordPqHeaderKeyPostCommit

/-!
## The ledger of our PSKs
-/

theorem exportPsk_component {domain : PskDomain} {g : M.Group} {e : ExportedPsk}
    (h : ((exportPsk domain).run g).1 = .ok e) :
    e.componentId = domain.componentId := by
  have hreturns : Op.Returns (exportPsk (M := M) domain) fun e =>
      e.componentId = domain.componentId := by
    unfold exportPsk
    refine Op.Returns.bind (Op.Returns.any _) fun exporter _ => ?_
    refine Op.Returns.bind (Op.Returns.any _) fun g' _ => ?_
    refine Op.Returns.bind (Op.Returns.any _) fun pskId _ => ?_
    refine Op.Returns.bind (Op.Returns.any _) fun psk _ => ?_
    exact Op.Returns.value rfl
  exact hreturns g e h

theorem accounted_remembered {s : SessionInner M} {id : PskId} (entry : Nat × ExportedPsk)
    (h : id ∈ ledgerIds s ∨ id ∈ s.ledger.retiredSendPsks) :
    let grown := s.ledger.sendPskLedger ++ [entry]
    id ∈ (keepNewest sendPskWindow grown).map (fun e => e.2.storageId) ∨
      id ∈ s.ledger.retiredSendPsks ++
        (grown.take (grown.length - sendPskWindow)).map fun e => e.2.storageId := by
  intro grown
  rcases h with hledger | hretired
  · have hgrown : id ∈ grown.map fun e => e.2.storageId := by
      rw [List.map_append]
      exact List.mem_append_left _ hledger
    rw [← List.take_append_drop (grown.length - sendPskWindow) grown, List.map_append]
      at hgrown
    rcases List.mem_append.mp hgrown with hevicted | hkept
    · exact Or.inr (List.mem_append_right _ hevicted)
    · exact Or.inl hkept
  · exact Or.inr (List.mem_append_left _ hretired)

theorem hygienic_rememberSendPsk :
    Op.Keeps (Hygienic ours s₀) (rememberSendPsk : SessionOp M Unit) := by
  unfold rememberSendPsk
  refine Op.Keeps.looking (still_readHalf _ _) fun g => ?_
  dsimp only
  refine Op.Keeps.looking Op.Still.state fun s => ?_
  apply Op.Keeps.ite
  · exact Op.Keeps.value ()
  refine Op.Keeps.bind (staysHome_ofGroup _ _ _).leaves.keeps fun exported => ?_
  apply Op.Keeps.update
  intro s hs
  refine hs.mono ?_
  rintro store id ⟨haccounted, hstore⟩
  exact ⟨accounted_remembered _ haccounted, hstore⟩

theorem home_rememberSendPsk :
    Op.Keeps (AtHome ours s₀) (rememberSendPsk : SessionOp M Unit) := by
  have hplaces : Op.Writes readPsks [.book] (rememberSendPsk : SessionOp M Unit) := by
    unfold rememberSendPsk
    refine Op.Writes.looking (still_readHalf _ _) fun g => ?_
    refine Op.Writes.looking Op.Still.state fun s => ?_
    apply Op.Writes.ite
    · exact Op.Writes.value ()
    refine Op.Writes.bind ((staysHome_ofGroup _ _ _).mono (List.nil_subset _))
      fun exported => ?_
    apply Op.Writes.update
    intro s part hpart
    cases part with
    | book => exact absurd List.mem_cons_self hpart
    | places => rfl
  intro s hs
  have hkept : readPsks .places (rememberSendPsk.run s).2 = readPsks .places s :=
    hplaces s .places (by decide)
  exact ⟨hygienic_rememberSendPsk s hs.hygienic, hkept.trans hs.home⟩

/-!
## Injecting
-/

theorem foldl_registerStores (entries : List (Nat × ExportedPsk)) (s : SessionInner M) :
    entries.foldl (fun s entry =>
        s.registerStores (injectionStores s) entry.2.storageId entry.2.psk) s =
      { s with
        services := { s.services with
          psks := entries.foldl (fun heap entry =>
            heap.register (injectionStores s) entry.2.storageId entry.2.psk)
              s.services.psks } } := by
  induction entries generalizing s with
  | nil => rfl
  | cons entry rest ih =>
      rw [List.foldl_cons, ih]
      rfl

theorem foldl_forgetStores (ids : List PskId) (s : SessionInner M) :
    ids.foldl (fun s id => s.forgetStores (injectionStores s) id) s =
      { s with
        services := { s.services with
          psks := ids.foldl (fun heap id => heap.forget (injectionStores s) id)
            s.services.psks } } := by
  induction ids generalizing s with
  | nil => rfl
  | cons id rest ih =>
      rw [List.foldl_cons, ih]
      rfl

theorem holdsOnly_registerAll {psks : PskHeap} {P : StoreId -> PskId -> Prop}
    (h : HoldsOnly psks ours P) {stores : List StoreId}
    {entries : List (Nat × ExportedPsk)}
    (hnew : forall entry, entry ∈ entries -> forall store, store ∈ stores ->
      P store entry.2.storageId) :
    HoldsOnly (entries.foldl (fun heap entry =>
      heap.register stores entry.2.storageId entry.2.psk) psks) ours P := by
  induction entries generalizing psks with
  | nil => exact h
  | cons entry rest ih =>
      rw [List.foldl_cons]
      apply ih
      · exact h.register _ fun _ => hnew entry List.mem_cons_self
      · exact fun entry' hmem => hnew entry' (List.mem_cons_of_mem _ hmem)

/-- Where the PSKs lie in the stores of the start, an injection leaves those of the
ledger. -/
theorem injectSendPsks_vouches :
    Op.Triple (AtHome ours s₀) (injectSendPsks : SessionOp M Unit)
      (fun _ s => AtHome ours s₀ s ∧
        HoldsOnly s.services.psks ours fun _ id => id ∈ ledgerIds s)
      fun _ => AtHome ours s₀ := by
  unfold injectSendPsks
  refine Op.Triple.bind (Op.Triple.ofKeeps home_rememberSendPsk) fun _ => ?_
  refine Op.Triple.bind (Q := fun _ => AtHome ours s₀) ?_ fun _ => ?_
  · apply Op.Triple.update
    intro s hs
    rw [foldl_registerStores]
    refine ⟨holdsOnly_registerAll hs.hygienic ?_, hs.home⟩
    intro entry hmem store hstore
    rw [hs.home] at hstore
    exact ⟨Or.inl (List.mem_map_of_mem hmem), hstore⟩
  · apply Op.Triple.update
    intro s hs
    have hledger : HoldsOnly (s.ledger.retiredSendPsks.foldl
        (fun heap id => heap.forget (injectionStores s) id) s.services.psks) ours
          fun store id => id ∈ ledgerIds s ∧ store ∈ injectionStores s₀ := by
      refine (HoldsOnly.forgetAll hs.hygienic _ _).mono ?_
      rintro store id ⟨⟨haccounted, hstore⟩, hkept⟩
      refine ⟨?_, hstore⟩
      rcases haccounted with hmem | hretired
      · exact hmem
      · rw [← hs.home] at hstore
        exact absurd ⟨hstore, hretired⟩ hkept
    rw [foldl_forgetStores]
    refine ⟨⟨hledger.mono ?_, hs.home⟩, hledger.mono fun _ _ h => h.1⟩
    exact fun store id h => ⟨Or.inl h.1, h.2⟩

theorem home_injectSendPsksIf (b : Bool) :
    Op.Keeps (AtHome ours s₀)
      (if b then injectSendPsks else pure () : SessionOp M Unit) := by
  apply Op.Keeps.ite
  · intro s hs
    exact (injectSendPsks_vouches.weaken (fun _ _ h => h.1) fun _ _ h => h).always hs
  · exact Op.Keeps.value ()

/-!
## The PSKs of other exporters
-/

def RegistersNone (ours : PskId -> Prop) (y : HalfOp M α) : Prop :=
  forall P, Op.Keeps (fun hs => HoldsOnly hs.services.psks ours P) y

theorem hygienic_onHalf (h : Half) (missing : TwoMlsPqError)
    {y : StoreId -> HalfOp M α} (hy : forall store, RegistersNone ours (y store)) :
    Op.Keeps (Hygienic ours s₀) (onHalf h missing y) := by
  intro s hs
  unfold onHalf
  rw [Op.run_ofResult]
  split
  next g store held hstore =>
    have hkept := hy store (Accounted s₀ s) { services := s.services, group := g } hs
    cases h <;> exact hkept
  next => exact hs

theorem registersNone_call (store : StoreId) (err : MlsError -> TwoMlsPqError)
    (f : MlsEnv -> M.Group -> Except MlsError α × M.Group) :
    RegistersNone ours (HalfOp.call store err f) := by
  intro P hs h
  rw [run_call]
  exact h

theorem registersNone_injected {g : M.Group} (cross : forall id, ours id -> IsCrossParty id)
    (stores : List StoreId) (psk : Bytes) :
    RegistersNone ours (HalfOp.register (M := M) stores (injectedPskId g) psk) := by
  intro P hs h
  refine HoldsOnly.register h psk fun hours => ?_
  rcases cross _ hours with ⟨pskId, hid⟩
  cases hid

theorem registersNone_forget (stores : List StoreId) (id : PskId) :
    RegistersNone ours (HalfOp.forget (M := M) stores id) :=
  fun _ _ h => HoldsOnly.forget h stores id

theorem not_ours_of_apq (cross : forall id, ours id -> IsCrossParty id) {g : M.Group}
    {e : ExportedPsk} (h : ((exportPsk .apq).run g).1 = .ok e) : ¬ ours e.storageId := by
  intro hours
  rcases cross _ hours with ⟨pskId, hid⟩
  unfold ExportedPsk.storageId at hid
  rw [exportPsk_component h] at hid
  injection hid with hcomponent
  revert hcomponent
  decide

theorem registersNone_exportApqPsk (cross : forall id, ours id -> IsCrossParty id)
    (stores : List StoreId) :
    RegistersNone ours (exportApqPsk (M := M) stores) := by
  intro P hs h
  unfold exportApqPsk HalfOp.ofGroup HalfOp.register
  rw [Op.run_bind, Op.run_ofResult]
  rcases hrun : (exportPsk .apq).run hs.group with ⟨r, g⟩
  cases r with
  | error e => exact h
  | ok e =>
      refine HoldsOnly.register h e.psk fun hours => ?_
      exact absurd hours (not_ours_of_apq cross (g := hs.group) (by rw [hrun]))

theorem registersNone_injectAndCommit (cross : forall id, ours id -> IsCrossParty id)
    (store : StoreId) (stores : List StoreId) (secret : Bytes)
    (attestation : ApqInfoUpdate) (seed : M.Seed) :
    RegistersNone ours (injectAndCommit store stores secret attestation seed) := by
  intro P
  have hgroup : Op.Still (HalfOp.group : HalfOp M M.Group) :=
    Op.Still.bind Op.Still.state fun _ => Op.Still.value _
  unfold injectAndCommit
  refine Op.Keeps.looking hgroup fun g => ?_
  dsimp only
  refine Op.Keeps.bind (registersNone_injected cross stores secret P) fun _ => ?_
  refine Op.Keeps.bind (Op.Keeps.attempt ?_) fun built => ?_
  · unfold buildAndApply
    refine Op.Keeps.bind (registersNone_call _ _ _ P) fun out => ?_
    refine Op.Keeps.bind (registersNone_call _ _ _ P) fun _ => ?_
    refine Op.Keeps.looking hgroup fun g' => ?_
    refine Op.Keeps.looking (Op.Still.ofExcept _) fun _ => ?_
    exact Op.Keeps.value _
  refine Op.Keeps.bind (registersNone_forget stores _ P) fun _ => ?_
  refine Op.Keeps.looking (Op.Still.ofExcept _) fun message => ?_
  exact Op.Keeps.still (Op.Still.ofExcept _)

theorem registersNone_applyInjectedCommit
    (cross : forall id, ours id -> IsCrossParty id) (store : StoreId)
    (stores : List StoreId) (secret : Bytes) (pqCommit : Blob M) :
    RegistersNone ours (applyInjectedCommit store stores secret pqCommit) := by
  intro P
  have hgroup : Op.Still (HalfOp.group : HalfOp M M.Group) :=
    Op.Still.bind Op.Still.state fun _ => Op.Still.value _
  unfold applyInjectedCommit
  refine Op.Keeps.looking hgroup fun g => ?_
  dsimp only
  refine Op.Keeps.bind (registersNone_injected cross stores secret P) fun _ => ?_
  refine Op.Keeps.bind (Op.Keeps.attempt ?_) fun applied => ?_
  · unfold processAttested
    refine Op.Keeps.looking (Op.Still.ofOption _ _) fun message => ?_
    refine Op.Keeps.bind (registersNone_call _ _ _ P) fun received => ?_
    refine Op.Keeps.looking ?_ fun attestation => ?_
    · split
      · exact Op.Still.ofExcept _
      · exact Op.Still.fail _
    refine Op.Keeps.looking (Op.Still.ofOption _ _) fun attestation => ?_
    refine Op.Keeps.looking hgroup fun g' => ?_
    refine Op.Keeps.looking (Op.Still.ofExcept _) fun _ => ?_
    exact Op.Keeps.value _
  refine Op.Keeps.bind (registersNone_forget stores _ P) fun _ => ?_
  refine Op.Keeps.looking (Op.Still.ofExcept _) fun attestation => ?_
  refine Op.Keeps.bind (registersNone_exportApqPsk cross stores P) fun apqPsk => ?_
  exact Op.Keeps.value _

def Unspent (ours : PskId -> Prop) (s₀ : SessionInner M) (h : Half)
    (s : SessionInner M) : Prop :=
  Hygienic ours s₀ s ∧ s.half h = s₀.half h

theorem exports_other {h : Half} (hother : h ≠ .sendClassical) (happart : Apart ours s₀)
    (missing : TwoMlsPqError) :
    Op.Triple (Unspent ours s₀ h)
      (onHalf h missing fun _ => HalfOp.ofGroup (exportPsk .crossParty))
      (fun e s => ¬ ours e.storageId ∧ Hygienic ours s₀ s)
      fun _ => Hygienic ours s₀ := by
  rintro s ⟨hs, hhalf⟩
  have hkept := (staysHome_ofGroup h missing (exportPsk (M := M) .crossParty)).leaves.keeps
    s hs
  cases hresult : ((onHalf h missing fun _ =>
      HalfOp.ofGroup (exportPsk (M := M) .crossParty)).run s).1 with
  | error e => exact hkept
  | ok e =>
      refine ⟨?_, hkept⟩
      unfold onHalf at hresult
      rw [Op.run_ofResult] at hresult
      split at hresult
      next g store held hstore =>
        rw [hhalf] at held
        exact happart h hother g held e hresult
      next => cases hresult

theorem exports_recvPq (happart : Apart ours s₀) :
    Op.Triple (Unspent ours s₀ .recvPq) (exportCrossFromRecvPq : SessionOp M ExportedPsk)
      (fun e s => ¬ ours e.storageId ∧ Hygienic ours s₀ s)
      fun _ => Hygienic ours s₀ := by
  unfold exportCrossFromRecvPq
  refine Op.Triple.looking (still_readHalf _ _) (fun _ _ h => h.1) fun g => ?_
  refine Op.Triple.bind (exports_other (by decide) happart _) fun e => ?_
  refine Op.Triple.bind
    (Q := fun _ s => ¬ ours e.storageId ∧ Hygienic ours s₀ s)
    (Op.Triple.update fun _ h => h) fun _ => ?_
  exact Op.Triple.value fun _ h => h

theorem exports_sendPq (happart : Apart ours s₀) :
    Op.Triple (Unspent ours s₀ .sendPq) (exportCrossFromSendPq : SessionOp M ExportedPsk)
      (fun e s => ¬ ours e.storageId ∧ Hygienic ours s₀ s)
      fun _ => Hygienic ours s₀ := by
  unfold exportCrossFromSendPq
  refine Op.Triple.looking (still_readHalf _ _) (fun _ _ h => h.1) fun g => ?_
  refine Op.Triple.bind (exports_other (by decide) happart _) fun e => ?_
  refine Op.Triple.bind
    (Q := fun _ s => ¬ ours e.storageId ∧ Hygienic ours s₀ s)
    (Op.Triple.update fun _ h => h) fun _ => ?_
  exact Op.Triple.value fun _ h => h

theorem staysHome_exportCrossFromSendPq :
    StaysHome (exportCrossFromSendPq : SessionOp M ExportedPsk) := by
  unfold exportCrossFromSendPq
  refine Op.Writes.looking (still_readHalf _ _) fun g => ?_
  refine Op.Writes.bind (staysHome_ofGroup _ _ _) fun exported => ?_
  refine Op.Writes.bind (staysHome_update fun _ part => by cases part <;> rfl)
    fun _ => ?_
  exact Op.Writes.value _

theorem staysHome_exportCrossFromRecvPq :
    StaysHome (exportCrossFromRecvPq : SessionOp M ExportedPsk) := by
  unfold exportCrossFromRecvPq
  refine Op.Writes.looking (still_readHalf _ _) fun g => ?_
  refine Op.Writes.bind (staysHome_ofGroup _ _ _) fun exported => ?_
  refine Op.Writes.bind (staysHome_update fun _ part => by cases part <;> rfl)
    fun _ => ?_
  exact Op.Writes.value _

theorem staysHome_takeResponderSecret :
    StaysHome (takeResponderSecret : SessionOp M Bytes) := by
  have hcleared : StaysHome (Op.update (clearInflight : SessionInner M -> SessionInner M)) :=
    staysHome_update fun _ part => by cases part <;> rfl
  have hreExport : StaysHome (takeResponderSecret.reExport : SessionOp M Bytes) := by
    unfold takeResponderSecret.reExport
    refine Op.Writes.bind staysHome_exportCrossFromSendPq fun exported => ?_
    refine Op.Writes.bind hcleared fun _ => ?_
    exact Op.Writes.value _
  unfold takeResponderSecret
  refine Op.Writes.looking Op.Still.state fun s => ?_
  split
  · refine Op.Writes.bind hcleared fun _ => ?_
    exact Op.Writes.value _
  · exact hreExport
  · exact hreExport
  · exact Op.Writes.fail _

/-!
## The doors that send
-/

section

variable (cross : forall id, ours id -> IsCrossParty id) (apart : Apart ours s₀)

theorem hygienic_crossPskForCommit (apart : Apart ours s₀) :
    Op.Triple (Unspent ours s₀ .recvClassical)
      (crossPskForCommit : SessionOp M (Option ExportedPsk))
      (fun _ => Hygienic ours s₀) fun _ => Hygienic ours s₀ := by
  unfold crossPskForCommit
  refine Op.Triple.looking (still_readHalf _ _) (fun _ _ h => h.1) fun recv => ?_
  dsimp only
  refine Op.Triple.looking Op.Still.state (fun _ _ h => h.1) fun s => ?_
  apply Op.Triple.ite
  · intro _
    exact Op.Triple.value fun _ h => h.1
  · intro _
    refine Op.Triple.bind (exports_other (by decide) apart _) fun e => ?_
    refine Op.Triple.looking Op.Still.state (fun _ _ h => h.2) fun s => ?_
    refine Op.Triple.looking (Op.Still.ofOption _ _) (fun _ _ h => h.2) fun send => ?_
    refine Op.Triple.bind (Q := fun _ => Hygienic ours s₀) ?_ fun _ => ?_
    · apply Op.Triple.update
      rintro s' ⟨hother, hs'⟩
      exact (hs'.registered send.stores e.psk hother).congr rfl rfl rfl rfl
    · exact Op.Triple.value fun _ h => h

include cross

theorem hygienic_dischargeOwedBind :
    Op.Keeps (Hygienic ours s₀)
      (dischargeOwedBind : SessionOp M (Option (DischargedBind M))) := by
  unfold dischargeOwedBind
  refine Op.Keeps.looking Op.Still.state fun s => ?_
  split
  · exact Op.Keeps.value _
  · refine Op.Keeps.bind (Op.Keeps.update fun _ h => h) fun _ => ?_
    refine Op.Keeps.looking (still_readHalf _ _) fun send => ?_
    refine Op.Keeps.looking (still_readHalf _ _) fun sendPq => ?_
    refine Op.Keeps.looking (Op.Still.ensure _ _) fun _ => ?_
    refine Op.Keeps.looking (Op.Still.ensure _ _) fun _ => ?_
    refine Op.Keeps.bind (hygienic_onHalf _ _ fun _ =>
      registersNone_exportApqPsk cross _) fun apqPsk => ?_
    refine Op.Keeps.bind (Op.Keeps.update fun _ h => h) fun _ => ?_
    exact Op.Keeps.value _

omit cross in
theorem hygienic_forgetConsumed (crossPsk : Option ExportedPsk)
    (owed : Option (DischargedBind M)) {s : SessionInner M} (h : Hygienic ours s₀ s) :
    Hygienic ours s₀ (forgetConsumed crossPsk owed s) := by
  unfold forgetConsumed
  cases crossPsk with
  | none =>
      cases owed with
      | none => exact h
      | some o => exact HoldsOnly.forget (h.forgotten _ _) _ _
  | some e =>
      cases owed with
      | none => exact h.forgotten _ _
      | some o => exact HoldsOnly.forget ((h.forgotten _ _).forgotten _ _) _ _

theorem hygienic_dischargeAndCommit (folded : Option (PeerProposal M))
    (crossPsk : Option ExportedPsk) (handoff : Option (M.Signer × Bytes))
    (seed : M.Seed) :
    Op.Keeps (Hygienic ours s₀) (dischargeAndCommit folded crossPsk handoff seed) := by
  have hcall : forall {β : Type} (err : MlsError -> TwoMlsPqError)
      (f : MlsEnv -> M.Group -> Except MlsError β × M.Group),
      Op.Keeps (Hygienic ours s₀) (callHalf .sendClassical .sessionNotReady err f) :=
    fun err f => (staysHome_callHalf _ _ _ _).leaves.keeps
  unfold dischargeAndCommit
  refine Op.Keeps.bind (hygienic_dischargeOwedBind cross) fun owed => ?_
  refine Op.Keeps.bind (hcall _ _) fun output => ?_
  refine Op.Keeps.bind (hcall _ _) fun _ => ?_
  refine Op.Keeps.looking (still_readHalf _ _) fun send => ?_
  refine Op.Keeps.looking (Op.Still.ofExcept _) fun _ => ?_
  refine Op.Keeps.bind (Op.Keeps.update fun s =>
    hygienic_forgetConsumed crossPsk owed) fun _ => ?_
  refine Op.Keeps.bind (LeavesPsks.keeps (leavesPsks_update fun s => ?_)) fun _ => ?_
  · unfold canonicalizeFold
    cases folded with
    | none => rfl
    | some approved =>
        dsimp only
        split
        · rfl
        · rfl
  refine Op.Keeps.bind hygienic_rememberSendPsk fun _ => ?_
  refine Op.Keeps.looking (Op.Still.ofExcept _) fun clCommit => ?_
  exact Op.Keeps.update fun _ h => h

include apart

theorem hygienic_commitRound (folded : Option (PeerProposal M)) (seed : M.Seed) :
    Op.Triple (Unspent ours s₀ .recvClassical) (commitRound folded seed)
      (fun _ => Hygienic ours s₀) fun _ => Hygienic ours s₀ := by
  have hremembered : Op.Keeps (Unspent ours s₀ .recvClassical)
      (rememberSendPsk : SessionOp M Unit) := by
    rintro s ⟨hs, hhalf⟩
    exact ⟨hygienic_rememberSendPsk s hs,
      (touches_rememberSendPsk.half (by decide) s).trans hhalf⟩
  unfold commitRound
  refine Op.Triple.bind ((Op.Triple.ofKeeps hremembered).weaken (fun _ _ h => h)
    fun _ _ h => h.1) fun _ => ?_
  refine Op.Triple.bind (hygienic_crossPskForCommit apart) fun crossPsk => ?_
  apply Op.Triple.ofKeeps
  refine Op.Keeps.looking still_handoffForCommit fun handoff => ?_
  refine Op.Keeps.bind (Touches.leavesPsks (touches_refold folded) (by decide)
    (by decide)).keeps fun _ => ?_
  refine Op.Keeps.looking Op.Still.state fun s => ?_
  exact (hygienic_dischargeAndCommit cross folded crossPsk handoff seed).mapError

theorem hygienic_prepareRatchetCommit (selected : Option Bytes) (rnd : Nat -> M.Seed) :
    Op.Triple (Unspent ours s₀ .recvClassical) (prepareRatchetCommit selected rnd)
      (fun _ => Hygienic ours s₀) fun _ => Hygienic ours s₀ := by
  unfold prepareRatchetCommit
  refine Op.Triple.looking Op.Still.state (fun _ _ h => h.1) fun s => ?_
  dsimp only
  refine Op.Triple.bind (Q := fun _ => Unspent ours s₀ .recvClassical)
    (Op.Triple.update fun _ h => h) fun _ => ?_
  refine Op.Triple.looking still_peerAppliedOurSendEpoch (fun _ _ h => h.1)
    fun licensed => ?_
  refine Op.Triple.bind (Q := fun _ => Hygienic ours s₀) ?_ fun _ => ?_
  · apply Op.Triple.ite
    · intro _
      exact hygienic_commitRound cross apart _ _
    · intro _
      exact Op.Triple.value fun _ h => h.1
  apply Op.Triple.ofKeeps
  refine Op.Keeps.bind (leavesPsks_stageSelfUpdate _ _).keeps fun proposal => ?_
  refine Op.Keeps.looking Op.Still.state fun s => ?_
  exact Op.Keeps.value _

theorem hygienic_prepareToEncryptInner (proposing : Option Bytes)
    (rnd : Nat -> M.Seed) :
    Op.Triple (Unspent ours s₀ .recvClassical) (prepareToEncryptInner proposing rnd)
      (fun _ => Hygienic ours s₀) fun _ => Hygienic ours s₀ := by
  unfold prepareToEncryptInner
  refine Op.Triple.looking still_ensureEstablishmentDelegated (fun _ _ h => h.1)
    fun _ => ?_
  refine Op.Triple.looking Op.Still.state (fun _ _ h => h.1) fun s => ?_
  refine Op.Triple.bind (Q := fun _ => Hygienic ours s₀) ?_ fun result => ?_
  · apply Op.Triple.ite
    · intro _
      exact ((Op.Triple.ofKeeps (Touches.leavesPsks (touches_preparePreEstablishment _)
        (by decide) (by decide)).keeps).pre fun _ h => h.1)
    · intro _
      exact hygienic_prepareRatchetCommit cross apart _ _
  apply Op.Triple.ofKeeps
  refine Op.Keeps.bind leavesPsks_recordListenRendezvous.keeps fun _ => ?_
  refine Op.Keeps.bind (Touches.leavesPsks (touches_rewrapSideBand _) (by decide)
    (by decide)).keeps fun _ => ?_
  exact Op.Keeps.value _

end

/-!
## The doors that receive
-/

section

variable (cross : forall id, ours id -> IsCrossParty id)

include cross

theorem hygienic_joinWelcome (w : ApqWelcome M) :
    Op.Keeps (Hygienic ours s₀) (joinWelcome w) := by
  unfold joinWelcome
  refine Op.Keeps.looking Op.Still.state fun s => ?_
  dsimp only
  apply Op.Keeps.ite
  · refine Op.Keeps.looking (Op.Still.ofExcept _) fun classical => ?_
    refine Op.Keeps.looking (Op.Still.ofExcept _) fun _ => ?_
    exact Op.Keeps.value _
  · refine Op.Keeps.looking (Op.Still.ofExcept _) fun pq => ?_
    refine Op.Keeps.knowing (Q := fun exported => ¬ ours exported.1.storageId) ?_
      (Op.Keeps.still ?_) fun exported hother => ?_
    · rcases hrun : (exportPsk .apq).run pq with ⟨r, pq'⟩
      cases r with
      | error e => exact Op.Returns.fail e
      | ok e => exact Op.Returns.value (not_ours_of_apq cross (g := pq) (by rw [hrun]))
    · split
      · exact Op.Still.value _
      · exact Op.Still.fail _
    refine Op.Keeps.bind (Op.Keeps.update fun _ h =>
      HoldsOnly.register h _ fun hours => absurd hours hother) fun _ => ?_
    refine Op.Keeps.looking Op.Still.state fun s => ?_
    refine Op.Keeps.looking (Op.Still.ofExcept _) fun classical => ?_
    refine Op.Keeps.looking (Op.Still.ofExcept _) fun _ => ?_
    refine Op.Keeps.looking (Op.Still.ofExcept _) fun _ => ?_
    exact Op.Keeps.value _

theorem hygienic_processWelcome (welcome : WelcomeBytes M)
    (establishment : WelcomeEstablishment) :
    Op.Triple (AtHome ours s₀) (processWelcome welcome establishment)
      (fun _ => Hygienic ours s₀) fun _ => Hygienic ours s₀ := by
  unfold processWelcome
  dsimp only
  refine Op.Triple.looking Op.Still.state (fun _ _ h => h.hygienic) fun s => ?_
  apply Op.Triple.ite
  · intro _
    exact (Op.Triple.keptBy (Op.Still.ensure _ _) fun _ _ h => h.hygienic).post
      fun _ _ h => h.hygienic
  intro _
  refine Op.Triple.bind (Q := fun _ => AtHome ours s₀) ?_ fun _ => ?_
  · apply Op.Triple.update
    intro s' hs'
    refine ⟨?_, (injectionStores_trackPskStores _ s').trans hs'.home⟩
    exact (leavesPsks_update fun s => book_trackPskStores s.client s).keeps s' hs'.hygienic
  refine Op.Triple.bind (Q := fun _ => Hygienic ours s₀)
    ((Op.Triple.ofKeeps (home_injectSendPsksIf _)).weaken (fun _ _ h => h.hygienic)
      fun _ _ h => h.hygienic) fun _ => ?_
  apply Op.Triple.ofKeeps
  refine Op.Keeps.looking (Op.Still.ofOption _ _) fun w => ?_
  refine Op.Keeps.looking (Op.Still.ofExcept _) fun _ => ?_
  refine Op.Keeps.bind (Op.Keeps.update fun _ h => h) fun _ => ?_
  refine Op.Keeps.bind (hygienic_joinWelcome cross w).attempt fun joined => ?_
  refine Op.Keeps.bind (Op.Keeps.update fun _ h => h) fun _ => ?_
  refine Op.Keeps.looking (Op.Still.ofExcept _) fun recv => ?_
  refine Op.Keeps.looking (still_readHalf _ _) fun send => ?_
  refine Op.Keeps.looking (Op.Still.ofExcept _) fun ownBinding => ?_
  refine Op.Keeps.looking (Op.Still.ofExcept _) fun _ => ?_
  refine Op.Keeps.looking (Op.Still.ofExcept _) fun _ => ?_
  refine Op.Keeps.looking (Op.Still.ofExcept _) fun creatorId => ?_
  refine Op.Keeps.looking Op.Still.state fun s => ?_
  refine Op.Keeps.looking (Op.Still.ofExcept _) fun _ => ?_
  exact Op.Keeps.update fun _ h => h

theorem hygienic_joinReporting (welcome : WelcomeBytes M)
    (establishment : WelcomeEstablishment) :
    Op.Triple (AtHome ours s₀) (joinReporting welcome establishment)
      (fun _ => Hygienic ours s₀) fun _ => Hygienic ours s₀ := by
  unfold joinReporting
  refine Op.Triple.looking Op.Still.state (fun _ _ h => h.hygienic) fun before => ?_
  refine Op.Triple.bind (hygienic_processWelcome cross _ _) fun _ => ?_
  refine Op.Triple.looking Op.Still.state (fun _ _ h => h) fun after => ?_
  exact Op.Triple.value fun _ h => h

theorem hygienic_applyBind (secret : Bytes) (pqCommit clCommit : Blob M) :
    Op.Triple (AtHome ours s₀) (applyBind secret pqCommit clCommit)
      (fun _ => Hygienic ours s₀) fun _ => Hygienic ours s₀ := by
  unfold applyBind
  refine Op.Triple.looking Op.Still.state (fun _ _ h => h.hygienic) fun s => ?_
  dsimp only
  refine Op.Triple.bind (Q := fun _ => Hygienic ours s₀)
    ((Op.Triple.ofKeeps (home_injectSendPsksIf _)).weaken (fun _ _ h => h.hygienic)
      fun _ _ h => h.hygienic) fun _ => ?_
  apply Op.Triple.ofKeeps
  refine Op.Keeps.bind (hygienic_onHalf _ _ fun _ =>
    registersNone_applyInjectedCommit cross _ _ _ _) fun applied => ?_
  refine Op.Keeps.bind (Touches.leavesPsks (touches_applyBindClassical _ _) (by decide)
    (by decide)).keeps fun moved => ?_
  refine Op.Keeps.bind (Op.Keeps.update fun _ h =>
    (h.forgotten _ _).forgotten _ _) fun _ => ?_
  exact Op.Keeps.value _

theorem hygienic_applyBindStaple (tMessage pqMessage : Blob M) :
    Op.Triple (AtHome ours s₀) (applyBindStaple tMessage pqMessage)
      (fun _ => Hygienic ours s₀) fun _ => Hygienic ours s₀ := by
  unfold applyBindStaple
  refine Op.Triple.bind ((Op.Triple.ofKeeps staysHome_takeResponderSecret.keeps).weaken
    (fun _ _ h => h) fun _ _ h => h.hygienic) fun secret => ?_
  refine Op.Triple.bind
    ((Op.Triple.ofKeeps staysHome_rememberRecvAttachmentComponent.keeps).weaken
      (fun _ _ h => h) fun _ _ h => h.hygienic) fun _ => ?_
  refine Op.Triple.bind (hygienic_applyBind cross _ _ _).attempt fun applied => ?_
  cases applied with
  | ok moved =>
      apply Op.Triple.ofKeeps
      refine Op.Keeps.bind (Op.Keeps.update fun _ h => h) fun _ => ?_
      exact Op.Keeps.value _
  | error e =>
      apply Op.Triple.ofKeeps
      refine Op.Keeps.bind (Op.Keeps.update fun _ h => h) fun _ => ?_
      exact Op.Keeps.fail _

omit cross in
theorem hygienic_applyCommitStaple (commit : M.Message) :
    Op.Triple (AtHome ours s₀) (applyCommitStaple commit)
      (fun _ => Hygienic ours s₀) fun _ => Hygienic ours s₀ := by
  unfold applyCommitStaple
  refine Op.Triple.looking Op.Still.state (fun _ _ h => h.hygienic) fun s => ?_
  refine Op.Triple.bind (Q := fun _ => Hygienic ours s₀)
    ((Op.Triple.ofKeeps (home_injectSendPsksIf _)).weaken (fun _ _ h => h.hygienic)
      fun _ _ h => h.hygienic) fun _ => ?_
  apply Op.Triple.ofKeeps
  refine Op.Keeps.bind staysHome_rememberRecvAttachmentComponent.leaves.keeps
    fun _ => ?_
  refine Op.Keeps.looking (still_readHalf _ _) fun before => ?_
  refine Op.Keeps.looking (Op.Still.ofExcept _) fun prior => ?_
  refine Op.Keeps.bind (staysHome_callHalf _ _ _ _).leaves.keeps fun received => ?_
  refine Op.Keeps.looking ?_ fun attestation => ?_
  · split
    · exact Op.Still.ofExcept _
    · exact Op.Still.fail _
  refine Op.Keeps.looking (still_readHalf _ _) fun after => ?_
  refine Op.Keeps.looking Op.Still.state fun s => ?_
  refine Op.Keeps.looking (Op.Still.ofExcept _) fun _ => ?_
  refine Op.Keeps.looking (Op.Still.ofExcept _) fun _ => ?_
  refine Op.Keeps.looking (Op.Still.ofExcept _) fun new => ?_
  exact Op.Keeps.value _

omit cross in
theorem hygienic_applyIfCurrent {apply : M.Message -> SessionOp M LeafChanges}
    (happly : forall m, Op.Triple (AtHome ours s₀) (apply m) (fun _ => Hygienic ours s₀)
      fun _ => Hygienic ours s₀) (commit : Option M.Message) :
    Op.Triple (AtHome ours s₀) (applyIfCurrent commit apply)
      (fun _ => Hygienic ours s₀) fun _ => Hygienic ours s₀ := by
  unfold applyIfCurrent
  refine Op.Triple.looking (Op.Still.ofOption _ _) (fun _ _ h => h.hygienic)
    fun message => ?_
  refine Op.Triple.looking Op.Still.state (fun _ _ h => h.hygienic) fun s => ?_
  refine Op.Triple.looking (Op.Still.ofExcept _) (fun _ _ h => h.hygienic)
    fun action => ?_
  cases action with
  | skip => exact Op.Triple.value fun _ h => h.hygienic
  | apply =>
      refine Op.Triple.bind (happly message) fun moved => ?_
      exact Op.Triple.value fun _ h => h

theorem hygienic_processStaple (staple : Staple M)
    (approval : Option EstablishmentApproval) :
    Op.Triple (AtHome ours s₀) (processStaple staple approval)
      (fun _ => Hygienic ours s₀) fun _ => Hygienic ours s₀ := by
  unfold processStaple
  refine Op.Triple.looking Op.Still.state (fun _ _ h => h.hygienic) fun s => ?_
  cases staple with
  | badHandoff => exact Op.Triple.fail fun _ h => h.hygienic
  | badBind => exact Op.Triple.fail fun _ h => h.hygienic
  | handoff envelope w =>
      dsimp only
      apply Op.Triple.ite
      · intro _
        split
        · exact Op.Triple.value fun _ h => h.hygienic
        · refine Op.Triple.bind (hygienic_joinReporting cross _ _) fun _ => ?_
          exact Op.Triple.value fun _ h => h
      · intro _
        refine Op.Triple.bind (hygienic_processWelcome cross _ _) fun _ => ?_
        exact Op.Triple.value fun _ h => h
  | welcome w =>
      refine Op.Triple.bind (hygienic_joinReporting cross _ _) fun _ => ?_
      exact Op.Triple.value fun _ h => h
  | bind tMessage pqMessage =>
      refine Op.Triple.bind (hygienic_applyIfCurrent (fun _ =>
        hygienic_applyBindStaple cross tMessage pqMessage) _) fun outcome => ?_
      exact Op.Triple.value fun _ h => h
  | commit message =>
      refine Op.Triple.bind (hygienic_applyIfCurrent hygienic_applyCommitStaple _)
        fun outcome => ?_
      exact Op.Triple.value fun _ h => h

theorem hygienic_processMessage (staple : Staple M) (proposal : ProposalSection M)
    (app : Blob M) (approval : Option EstablishmentApproval) :
    Op.Triple (AtHome ours s₀) (processMessage staple proposal app approval)
      (fun _ => Hygienic ours s₀) fun _ => Hygienic ours s₀ := by
  unfold processMessage
  refine Op.Triple.looking (Op.Still.ofOption _ _) (fun _ _ h => h.hygienic)
    fun appMessage => ?_
  refine Op.Triple.bind (hygienic_processStaple cross staple approval) fun outcome => ?_
  cases outcome with
  | none =>
      cases staple with
      | handoff envelope w => exact Op.Triple.value fun _ h => h
      | _ => exact Op.Triple.value fun _ h => h
  | some outcome =>
      apply Op.Triple.ofKeeps
      refine Op.Keeps.bind (leavesPsks_processMessageBody outcome proposal
        appMessage).keeps fun result => ?_
      exact Op.Keeps.value _

theorem hygienic_processIncomingInner (frame : Frame M)
    (approval : Option EstablishmentApproval) :
    Op.Triple (AtHome ours s₀) (processIncomingInner frame approval)
      (fun _ => Hygienic ours s₀) fun _ => Hygienic ours s₀ := by
  have hjoin : forall w establishment, Op.Triple (AtHome ours s₀)
      (joinStandalone w establishment) (fun _ => Hygienic ours s₀)
        fun _ => Hygienic ours s₀ := by
    intro w establishment
    unfold joinStandalone
    refine Op.Triple.bind (hygienic_joinReporting cross w establishment) fun _ => ?_
    refine Op.Triple.looking Op.Still.state (fun _ _ h => h) fun s => ?_
    split
    · exact Op.Triple.value fun _ h => h
    · exact Op.Triple.value fun _ h => h
  unfold processIncomingInner
  refine Op.Triple.looking Op.Still.state (fun _ _ h => h.hygienic) fun s => ?_
  refine Op.Triple.looking (Op.Still.ensure _ _) (fun _ _ h => h.hygienic) fun _ => ?_
  cases frame with
  | badHandoff => exact Op.Triple.fail fun _ h => h.hygienic
  | badMessage => exact Op.Triple.fail fun _ h => h.hygienic
  | sideBand f => exact Op.Triple.fail fun _ h => h.hygienic
  | unknown => exact Op.Triple.fail fun _ h => h.hygienic
  | welcome w => exact hjoin _ _
  | handoff envelope w =>
      dsimp only
      apply Op.Triple.ite
      · intro _
        refine Op.Triple.bind (hygienic_processWelcome cross _ _) fun _ => ?_
        exact Op.Triple.value fun _ h => h
      · intro _
        split
        · exact Op.Triple.value fun _ h => h.hygienic
        · exact hjoin _ _
  | message staple proposal app => exact hygienic_processMessage cross _ _ _ _
  | preEstablishment app =>
      refine Op.Triple.pre (P := Hygienic ours s₀) ?_ fun _ h => h.hygienic
      apply Op.Triple.ofKeeps
      refine Op.Keeps.looking (Op.Still.ofOption _ _) fun appMessage => ?_
      refine Op.Keeps.bind (Touches.leavesPsks (touches_decryptApp appMessage) (by decide)
        (by decide)).keeps fun _ => ?_
      exact Op.Keeps.value _

end

/-!
## The doors of the rounds
-/

section

variable (cross : forall id, ours id -> IsCrossParty id) (apart : Apart ours s₀)

include cross

theorem hygienic_commitPqAndOweBind (secret : Bytes) (seed : M.Seed) :
    Op.Keeps (Hygienic ours s₀) (commitPqAndOweBind secret seed : SessionOp M Unit) := by
  unfold commitPqAndOweBind
  refine Op.Keeps.looking Op.Still.state fun s => ?_
  refine Op.Keeps.looking (still_readHalf _ _) fun send => ?_
  refine Op.Keeps.looking (still_readHalf _ _) fun sendPq => ?_
  refine Op.Keeps.bind (hygienic_onHalf _ _ fun _ =>
    registersNone_injectAndCommit cross _ _ _ _ _) fun pqCommit => ?_
  exact Op.Keeps.update fun _ h => h

omit cross in
theorem hygienic_pastNoReturn {round : PqWedge} {x : SessionOp M Unit}
    (hx : Op.Keeps (Hygienic ours s₀) x) :
    Op.Keeps (Hygienic ours s₀)
      (do
        pastNoReturn round x
        recordPqHeaderKeyPostCommit : SessionOp M Unit) := by
  unfold pastNoReturn
  refine Op.Keeps.bind (Op.Keeps.bind hx.attempt fun r => ?_) fun _ => ?_
  · cases r with
    | ok _ => exact Op.Keeps.value ()
    | error e =>
        refine Op.Keeps.bind (Op.Keeps.update fun _ h => h) fun _ => ?_
        exact Op.Keeps.fail _
  · exact leavesPsks_recordPqHeaderKeyPostCommit.keeps

omit cross in
theorem leavesPsks_openCiphertextLeg (leg : M.Message) (carrier : LegCarrier) :
    LeavesPsks (openCiphertextLeg leg carrier) := by
  unfold openCiphertextLeg
  cases carrier with
  | classical =>
      exact (touches_processA4Leg (W := [.half .recvClassical]) _ _ _
        (by decide)).leavesPsks (by decide) (by decide)
  | pq =>
      refine Op.Writes.bind ((touches_processA4Leg (W := [.half .sendPq]) _ _ _
        (by decide)).leavesPsks (by decide) (by decide)).attempt fun opened => ?_
      cases opened with
      | ok payload => exact Op.Writes.value _
      | error e =>
          refine Op.Writes.bind (staysHome_groupOnly _ _ _ fun _ _ => rfl).leaves
            fun _ => ?_
          exact Op.Writes.fail _

theorem hygienic_ratchetBindInner (leg : M.Message) (carrier : LegCarrier)
    (seed : M.Seed) :
    Op.Keeps (Hygienic ours s₀) (ratchetBindInner leg carrier seed) := by
  unfold ratchetBindInner
  refine Op.Keeps.bind (leavesPsks_openCiphertextLeg leg carrier).keeps fun wireCt => ?_
  refine Op.Keeps.looking (still_openRoundSecret wireCt) fun secret => ?_
  refine Op.Keeps.bind hygienic_rememberSendPsk fun _ => ?_
  apply hygienic_pastNoReturn
  refine Op.Keeps.bind (Op.Keeps.update fun _ h => h) fun _ => ?_
  refine Op.Keeps.bind (hygienic_commitPqAndOweBind cross secret seed) fun _ => ?_
  exact Op.Keeps.update fun _ h => h

theorem hygienic_bootstrapBindInner (welcome : Blob M) (seed : M.Seed) :
    Op.Keeps (Hygienic ours s₀) (bootstrapBindInner welcome seed) := by
  unfold bootstrapBindInner
  refine Op.Keeps.bind (LeavesPsks.keeps (leavesPsks_update fun s =>
    book_trackPskStores s.client s)) fun _ => ?_
  refine Op.Keeps.looking (still_joinDeferredPqHalf welcome) fun pq => ?_
  apply hygienic_pastNoReturn
  refine Op.Keeps.bind (Op.Keeps.update fun _ h => h) fun _ => ?_
  refine Op.Keeps.bind staysHome_exportCrossFromRecvPq.leaves.keeps fun exported => ?_
  refine Op.Keeps.bind (hygienic_commitPqAndOweBind cross exported.psk seed) fun _ => ?_
  exact Op.Keeps.update fun _ h => h

omit cross

theorem hygienic_crossPskForRekey (apart : Apart ours s₀) :
    Op.Triple (Unspent ours s₀ .recvPq) (crossPskForRekey : SessionOp M (Option ExportedPsk))
      (fun _ => Hygienic ours s₀) fun _ => Hygienic ours s₀ := by
  unfold crossPskForRekey
  refine Op.Triple.looking (still_readHalf _ _) (fun _ _ h => h.1) fun recvPq => ?_
  refine Op.Triple.looking Op.Still.state (fun _ _ h => h.1) fun s => ?_
  apply Op.Triple.ite
  · intro _
    exact Op.Triple.value fun _ h => h.1
  · intro _
    refine Op.Triple.bind (exports_recvPq apart) fun e => ?_
    refine Op.Triple.bind (Q := fun _ => Hygienic ours s₀) ?_ fun _ => ?_
    · apply Op.Triple.update
      rintro s' ⟨hother, hs'⟩
      exact hs'.registered s'.ledger.pskStores e.psk hother
    · exact Op.Triple.value fun _ h => h

theorem hygienic_rekeyRespondInner (apart : Apart ours s₀) (proposal : M.Message)
    (seed : M.Seed) :
    Op.Triple (Unspent ours s₀ .recvPq) (rekeyRespondInner proposal seed)
      (fun _ => Hygienic ours s₀) fun _ => Hygienic ours s₀ := by
  have hcall : forall {β : Type} (err : MlsError -> TwoMlsPqError)
      (f : MlsEnv -> M.Group -> Except MlsError β × M.Group),
      Op.Keeps (Hygienic ours s₀) (callHalf .sendPq .sessionNotReady err f) :=
    fun err f => (staysHome_callHalf _ _ _ _).leaves.keeps
  unfold rekeyRespondInner
  refine Op.Triple.bind (hygienic_crossPskForRekey apart) fun crossPsk => ?_
  apply Op.Triple.ofKeeps
  refine Op.Keeps.bind (Touches.leavesPsks (touches_ingestRekeyUpdate proposal)
    (by decide) (by decide)).keeps fun rotated => ?_
  refine Op.Keeps.looking still_rekeyHandoff fun handoff => ?_
  refine Op.Keeps.bind (hcall _ _) fun output => ?_
  refine Op.Keeps.bind (hcall _ _) fun _ => ?_
  refine Op.Keeps.looking (still_readHalf _ _) fun sendPq => ?_
  refine Op.Keeps.looking (Op.Still.ofExcept _) fun _ => ?_
  refine Op.Keeps.looking (Op.Still.ofExcept _) fun body => ?_
  refine Op.Keeps.bind (Op.Keeps.update fun s h => ?_) fun _ => ?_
  · cases crossPsk with
    | none => exact h
    | some e => exact h.forgotten s.ledger.pskStores _
  refine Op.Keeps.bind (Op.Keeps.update fun _ h => h) fun _ => ?_
  refine Op.Keeps.bind (Op.Keeps.update fun _ h => h) fun _ => ?_
  refine Op.Keeps.bind leavesPsks_recordPqHeaderKeyPostCommit.keeps fun _ => ?_
  exact Op.Keeps.value _

theorem hygienic_preRegisterSendPq (apart : Apart ours s₀) :
    Op.Triple (Unspent ours s₀ .sendPq) (preRegisterSendPq : SessionOp M (Option PskId))
      (fun _ => Hygienic ours s₀) fun _ => Hygienic ours s₀ := by
  unfold preRegisterSendPq
  refine Op.Triple.looking (still_readHalf _ _) (fun _ _ h => h.1) fun sendPq => ?_
  refine Op.Triple.looking Op.Still.state (fun _ _ h => h.1) fun s => ?_
  apply Op.Triple.ite
  · intro _
    refine Op.Triple.bind (exports_sendPq apart) fun e => ?_
    refine Op.Triple.bind (Q := fun _ => Hygienic ours s₀) ?_ fun _ => ?_
    · apply Op.Triple.update
      rintro s' ⟨hother, hs'⟩
      exact hs'.registered s'.ledger.pskStores e.psk hother
    · exact Op.Triple.value fun _ h => h
  · intro _
    exact Op.Triple.value fun _ h => h.1

include cross

theorem hygienic_rekeyApplyInner (apart : Apart ours s₀) (commit : Blob M)
    (seed : M.Seed) :
    Op.Triple (Unspent ours s₀ .sendPq) (rekeyApplyInner commit seed)
      (fun _ => Hygienic ours s₀) fun _ => Hygienic ours s₀ := by
  unfold rekeyApplyInner
  refine Op.Triple.looking (Op.Still.ofOption _ _) (fun _ _ h => h.1) fun message => ?_
  refine Op.Triple.bind (hygienic_preRegisterSendPq apart) fun preRegistered => ?_
  apply Op.Triple.ofKeeps
  refine Op.Keeps.bind (Touches.leavesPsks (touches_applyRekeyCommit message) (by decide)
    (by decide)).keeps fun _ => ?_
  apply hygienic_pastNoReturn
  refine Op.Keeps.bind (Op.Keeps.update fun _ h => h) fun _ => ?_
  refine Op.Keeps.bind (Op.Keeps.update fun s h => ?_) fun _ => ?_
  · cases preRegistered with
    | none => exact h
    | some id => exact h.forgotten s.ledger.pskStores id
  refine Op.Keeps.bind staysHome_exportCrossFromRecvPq.leaves.keeps fun exported => ?_
  refine Op.Keeps.bind (hygienic_commitPqAndOweBind cross exported.psk seed) fun _ => ?_
  refine Op.Keeps.bind (Op.Keeps.update fun _ h => h) fun _ => ?_
  exact Op.Keeps.update fun _ h => h

end

/-!
## One call
-/

theorem hygienic_counter {s : SessionInner M} (n : Nat) (h : Hygienic ours s₀ s) :
    Hygienic ours s₀ { s with stateSeq := n } :=
  h

theorem hygienic_encodeAndPush (kind : BlobKind) :
    Op.Keeps (fun t : TwoMlsPqSession M => Hygienic ours s₀ t.inner)
      (encodeAndPush kind) :=
  keeps_encodeAndPush (leavesPsks_encodeBlob kind).keeps

theorem hygienic_persistAfter (kind : BlobKind) :
    Op.Keeps (fun t : TwoMlsPqSession M => Hygienic ours s₀ t.inner)
      (persistAfter kind) :=
  persistAfter_keeps (leavesPsks_encodeBlob kind).keeps fun _ n h => hygienic_counter n h

theorem hygienic_persistHandOut :
    Op.Keeps (fun t : TwoMlsPqSession M => Hygienic ours s₀ t.inner)
      (persistHandOut : ApiOp M Unit) := by
  unfold persistHandOut
  refine Op.Keeps.bind (bumpSeq_keeps fun _ n h => hygienic_counter n h) fun _ => ?_
  exact Op.Keeps.bind (hygienic_encodeAndPush .core).attempt fun _ => Op.Keeps.value ()

theorem hygienic_mutateAndPersist {k : BlobKind} {x : SessionOp M α}
    {t : TwoMlsPqSession M} (hx : Hygienic ours t.inner (x.run (started t)).2) :
    Hygienic ours t.inner ((mutateAndPersist k x).run t).2.inner := by
  unfold started at hx
  by_cases hseq : t.inner.stateSeq < maxSeq
  · rw [if_pos hseq] at hx
    rw [run_mutateAndPersist_state hseq]
    exact hygienic_encodeAndPush k (mutated x t) hx
  · rw [if_neg hseq] at hx
    rw [run_mutateAndPersist_exhausted hseq]
    exact hx

theorem hygienic_started {t : TwoMlsPqSession M} (h : Hygienic ours s₀ t.inner) :
    Hygienic ours s₀ (started t) := by
  unfold started
  split
  · exact h
  · exact h

theorem hygienic_persisted {k : BlobKind} {x : SessionOp M α} {t : TwoMlsPqSession M}
    (hx : Op.Keeps (Hygienic ours t.inner) x) (h : Hygienic ours t.inner t.inner) :
    Hygienic ours t.inner ((mutateAndPersist k x).run t).2.inner :=
  hygienic_mutateAndPersist (hx _ (hygienic_started h))

theorem hygienic_persisted_unspent {k : BlobKind} {x : SessionOp M α}
    {t : TwoMlsPqSession M} {half : Half}
    (hx : Op.Triple (Unspent ours t.inner half) x (fun _ => Hygienic ours t.inner)
      fun _ => Hygienic ours t.inner) (h : Hygienic ours t.inner t.inner) :
    Hygienic ours t.inner ((mutateAndPersist k x).run t).2.inner := by
  apply hygienic_mutateAndPersist
  apply hx.always
  have hcore := congrArg (fun c => c.half half) (core_started t)
  exact ⟨hygienic_started h, hcore⟩

theorem hygienic_guarded {β : Type} {guard : SessionOp M β} {body : β -> ApiOp M α}
    {t : TwoMlsPqSession M} (hguard : Op.Still guard) (h : Hygienic ours s₀ t.inner)
    (hbody : forall b, Hygienic ours s₀ ((body b).run t).2.inner) :
    Hygienic ours s₀ ((do
      let b <- locked guard
      body b : ApiOp M α).run t).2.inner := by
  have hlocked := run_locked_still hguard t
  cases hrun : (guard.run t.inner).1 with
  | error e =>
      rw [hrun] at hlocked
      rw [Op.run_bind_error hlocked]
      exact h
  | ok b =>
      rw [hrun] at hlocked
      rw [Op.run_bind_ok hlocked]
      exact hbody b

theorem hygienic_locked {x : SessionOp M α} (hx : Op.Keeps (Hygienic ours s₀) x) :
    Op.Keeps (fun t : TwoMlsPqSession M => Hygienic ours s₀ t.inner) (locked x) :=
  fun t ht => hx t.inner ht

theorem hygienic_installSink :
    Op.Keeps (fun t : TwoMlsPqSession M => Hygienic ours s₀ t.inner)
      (Session.installSink : ApiOp M Unit) := by
  unfold installSink
  refine Op.Keeps.looking Op.Still.state fun t => ?_
  refine Op.Keeps.looking (Op.Still.ensure _ _) fun _ => ?_
  refine Op.Keeps.bind (Op.Keeps.update fun _ h => h) fun _ => ?_
  exact hygienic_encodeAndPush .checkpoint

theorem hygienic_pendingOutbound :
    Op.Keeps (fun t : TwoMlsPqSession M => Hygienic ours s₀ t.inner)
      (pendingOutbound : ApiOp M (Option (Outbound M))) := by
  unfold pendingOutbound
  refine Op.Keeps.looking
    (Op.Still.attempt (still_locked still_ensureEstablishmentDelegated)) fun delegated => ?_
  refine Op.Keeps.looking Op.Still.state fun t => ?_
  split
  · refine Op.Keeps.bind (Op.Keeps.update fun _ h => h) fun _ => ?_
    refine Op.Keeps.looking ?_ fun out => ?_
    · apply Op.Still.ite
      · exact Op.Still.bind (Op.Still.attempt (still_locked still_sealFrame)) fun _ =>
          Op.Still.value _
      · exact Op.Still.value _
    · exact Op.Keeps.bind hygienic_persistHandOut fun _ => Op.Keeps.value _
  · exact Op.Keeps.value _

theorem hygienic_pqTakePendingOutbound :
    Op.Keeps (fun t : TwoMlsPqSession M => Hygienic ours s₀ t.inner)
      (pqTakePendingOutbound : ApiOp M (Option (SideBand M))) := by
  unfold pqTakePendingOutbound
  refine Op.Keeps.looking
    (Op.Still.attempt (still_locked still_ensureEstablishmentDelegated)) fun delegated => ?_
  refine Op.Keeps.looking Op.Still.state fun t => ?_
  split
  · refine Op.Keeps.bind (Op.Keeps.update fun _ h => h) fun _ => ?_
    refine Op.Keeps.looking (Op.Still.attempt (still_locked (still_sealSideBand _))) fun _ => ?_
    exact Op.Keeps.bind hygienic_persistHandOut fun _ => Op.Keeps.value _
  · exact Op.Keeps.value _

theorem hygienic_pqPendingOutbound (stable : Bool) :
    Op.Keeps (fun t : TwoMlsPqSession M => Hygienic ours s₀ t.inner)
      (pqPendingOutbound stable : ApiOp M (Option (SideBand M))) := by
  unfold pqPendingOutbound
  refine Op.Keeps.looking
    (Op.Still.attempt (still_locked still_ensureEstablishmentDelegated)) fun delegated => ?_
  apply Op.Keeps.ite
  · exact hygienic_locked (Touches.leavesPsks (touches_handOut stable) (by decide)
      (by decide)).keeps
  · exact Op.Keeps.value _

theorem leavesPsks_setInitialField (apply : EstablishmentState M -> EstablishmentState M)
    (seed : M.Seed) :
    LeavesPsks (do
      let s <- Op.state
      Op.ensure (s.recvGroup.isNone ∧ s.establishment.initialTheirKp.isSome)
        .sessionNotReady
      Op.update fun s => s.mapEstablishment apply
      let envelope <- composeInitialEnvelope none seed
      Op.update fun s => s.mapMsg fun m =>
        { m with
          pendingOutbound := some (.envelope envelope)
          currentStapleSeq := s.stateSeq } : SessionOp M Unit) := by
  refine Op.Writes.looking Op.Still.state fun s => ?_
  refine Op.Writes.looking (Op.Still.ensure _ _) fun _ => ?_
  refine Op.Writes.bind (leavesPsks_update fun _ => rfl) fun _ => ?_
  refine Op.Writes.looking (still_composeInitialEnvelope _ _) fun envelope => ?_
  exact leavesPsks_update fun _ => rfl

theorem hygienic_installEstablishmentEnvelope (envelope : Bytes) {t : TwoMlsPqSession M}
    (h : Hygienic ours t.inner t.inner) :
    Hygienic ours t.inner
      ((Session.installEstablishmentEnvelope envelope).run t).2.inner := by
  unfold Session.installEstablishmentEnvelope
  by_cases hempty : envelope ≠ []
  · rw [Op.run_bind_ok (Op.run_ensure hempty _ _), Op.run_bind_ok (Op.run_state t)]
    split
    · rw [Op.Still.ensure _ _ t]
      exact h
    · exact hygienic_persisted (Touches.leavesPsks (touches_installEnvelopeInner envelope)
        (by decide) (by decide)).keeps h
  · rw [Op.run_bind_error (Op.run_ensure_not hempty _ _)]
    exact h

theorem hygienic_queueProposal (digest : Bytes) {t : TwoMlsPqSession M}
    (h : Hygienic ours t.inner t.inner) :
    Hygienic ours t.inner ((Session.queueProposal digest).run t).2.inner := by
  unfold Session.queueProposal
  rw [Op.run_bind_ok (Op.run_state t)]
  by_cases hoffered : t.inner.msg.offeredProposal.isSome = true
  · rw [Op.run_bind_ok (Op.run_ensure hoffered _ _)]
    exact hygienic_persisted (leavesPsks_queueProposalInner digest).keeps h
  · rw [Op.run_bind_error (Op.run_ensure_not hoffered _ _)]
    exact h

theorem hygienic_encrypt (appMessage : Bytes) (rnd : Nat -> M.Seed)
    {t : TwoMlsPqSession M} (h : Hygienic ours t.inner t.inner) :
    Hygienic ours t.inner ((encrypt appMessage rnd).run t).2.inner := by
  have hfirst := hygienic_persisted (k := .core) (Touches.leavesPsks
    (touches_encryptInner appMessage rnd) (by decide) (by decide)).keeps h
  unfold encrypt
  rw [Op.run_bind]
  rcases hrun : (mutateAndPersist .core (encryptInner appMessage rnd)).run t with ⟨r, t'⟩
  rw [hrun] at hfirst
  cases r with
  | error e => exact hfirst
  | ok result =>
      dsimp only
      rw [Op.run_bind_still fun _ => Op.Still.value _]
      split
      · exact hygienic_persistAfter .checkpoint t' hfirst
      · exact hfirst

theorem hygienic_shouldListenOn :
    Op.Keeps (fun t : TwoMlsPqSession M => Hygienic ours s₀ t.inner)
      (Session.shouldListenOn : ApiOp M (List (Nat × Bytes))) := by
  unfold Session.shouldListenOn
  refine Op.Keeps.bind (hygienic_locked leavesPsks_recordListenRendezvous.keeps)
    fun _ => ?_
  refine Op.Keeps.bind (hygienic_locked leavesPsks_recordPqHeaderKey.keeps) fun _ => ?_
  refine Op.Keeps.looking Op.Still.state fun t => ?_
  exact Op.Keeps.looking (Op.Still.ensure _ _) fun _ => Op.Keeps.value _

theorem hygienic_processIncomingWith (cross : forall id, ours id -> IsCrossParty id)
    (frame : Frame M) (approval : Option EstablishmentApproval) {t : TwoMlsPqSession M}
    (h : Hygienic ours t.inner t.inner) :
    Hygienic ours t.inner ((processIncomingWith frame approval).run t).2.inner := by
  have hinner := (hygienic_processIncomingInner cross frame approval).always
    (show AtHome ours t.inner t.inner from ⟨h, rfl⟩)
  rcases run_processIncomingWith frame approval t with ⟨hfailed, hpaused, hpersisted⟩
  rcases hrun : (processIncomingInner frame approval).run t.inner with ⟨r, u⟩
  rw [hrun] at hinner
  cases r with
  | error e =>
      rw [hfailed e u hrun]
      exact hinner
  | ok d =>
      cases hp : isPaused d with
      | true =>
          rw [hpaused d u hrun hp]
          exact hinner
      | false =>
          rcases hpersisted d u hrun hp with ⟨kind, hcall⟩
          rw [hcall]
          exact hygienic_persistAfter kind (t.withInner u) hinner

theorem hygienic_call (cross : forall id, ours id -> IsCrossParty id) (call : Call M)
    {t : TwoMlsPqSession M} (apart : Apart ours t.inner)
    (h : Hygienic ours t.inner t.inner) :
    Hygienic ours t.inner (call.run.run t).2.inner := by
  unfold Call.run
  cases call with
  | installSink =>
      rw [handing_run]
      exact hygienic_installSink t h
  | pendingOutbound =>
      rw [handing_run]
      exact hygienic_pendingOutbound t h
  | installEstablishmentEnvelope envelope =>
      rw [handing_run]
      exact hygienic_installEstablishmentEnvelope envelope h
  | setInitialAppPayload payload seed =>
      rw [handing_run]
      exact hygienic_persisted (leavesPsks_setInitialField _ seed).keeps h
  | setInitialReturnKeyPackage kp seed =>
      rw [handing_run]
      exact hygienic_persisted (leavesPsks_setInitialField _ seed).keeps h
  | prepareToEncrypt proposing rnd =>
      rw [handing_run]
      exact hygienic_persisted_unspent (hygienic_prepareToEncryptInner cross apart _ _) h
  | encrypt appMessage rnd =>
      rw [handing_run]
      exact hygienic_encrypt appMessage rnd h
  | processIncoming frame approval =>
      rw [handing_run]
      exact hygienic_processIncomingWith cross frame approval h
  | queueProposal digest =>
      rw [handing_run]
      exact hygienic_queueProposal digest h
  | exportAttachmentCekSend keyId =>
      rw [handing_run]
      unfold exportAttachmentCekSend
      rw [Op.run_bind_still fun _ => Op.Still.ofExcept _]
      exact hygienic_persisted leavesPsks_sendAttachmentComponent.keeps h
  | exportAttachmentCekRecv keyId epoch =>
      rw [handing_run]
      unfold exportAttachmentCekRecv
      rw [Op.run_bind_still fun _ => Op.Still.ofExcept _]
      exact hygienic_persisted (leavesPsks_recvAttachmentComponent epoch).keeps h
  | shouldListenOn =>
      rw [handing_run]
      exact hygienic_shouldListenOn t h
  | pqPendingOutbound stable =>
      rw [handing_run]
      exact hygienic_pqPendingOutbound stable t h
  | pqTakePendingOutbound =>
      rw [handing_run]
      exact hygienic_pqTakePendingOutbound t h
  | pqRatchetRespond frame rnd =>
      rw [handing_run]
      refine hygienic_guarded (still_ratchetRespondGuard frame) h fun leg => ?_
      exact hygienic_persisted (Touches.leavesPsks (touches_ratchetRespondInner leg rnd)
        (by decide) (by decide)).keeps h
  | pqRatchetBind frame seed =>
      rw [handing_run]
      refine hygienic_guarded (still_ratchetBindGuard frame) h fun opened => ?_
      exact hygienic_persisted (hygienic_ratchetBindInner cross opened.1 opened.2 seed) h
  | pqRekeyRespond frame seed =>
      rw [handing_run]
      refine hygienic_guarded (still_rekeyRespondGuard frame) h fun proposal => ?_
      exact hygienic_persisted_unspent (hygienic_rekeyRespondInner apart proposal seed) h
  | pqRekeyApply frame seed =>
      rw [handing_run]
      refine hygienic_guarded (still_rekeyApplyGuard frame) h fun commit => ?_
      exact hygienic_persisted_unspent (hygienic_rekeyApplyInner cross apart commit seed) h
  | pqBootstrapBegin rotating =>
      rw [handing_run]
      refine hygienic_guarded (still_bootstrapBeginGuard rotating) h fun retained => ?_
      cases retained with
      | some frame => exact h
      | none => exact hygienic_persisted leavesPsks_bootstrapBeginInner.keeps h
  | pqBootstrapEnvelope seed =>
      rw [handing_run]
      refine hygienic_guarded (still_bootstrapEnvelopeGuard seed) h fun retained => ?_
      cases retained with
      | some frame => exact h
      | none => exact hygienic_persisted (leavesPsks_bootstrapEnvelopeInner seed).keeps h
  | pqBootstrapRespond frame rnd =>
      rw [handing_run]
      refine hygienic_guarded (still_bootstrapRespondGuard frame) h fun kp => ?_
      exact hygienic_persisted (leavesPsks_bootstrapRespondInner kp rnd).keeps h
  | pqBootstrapBind frame seed =>
      rw [handing_run]
      refine hygienic_guarded (still_bootstrapBindGuard frame) h fun welcome => ?_
      exact hygienic_persisted (hygienic_bootstrapBindInner cross welcome seed) h

/-!
## A life
-/

/-- The step takes no store out of reach that holds one of the PSKs. -/
def KeepsHolders (ours : PskId -> Prop) (s s' : SessionInner M) : Prop :=
  forall store id, ours id -> s'.services.psks store id ≠ none ->
    store ∈ injectionStores s -> store ∈ injectionStores s'

theorem Hygienic.moved {s s' : SessionInner M} (h : Hygienic ours s s')
    (hkept : KeepsHolders ours s s') : Hygienic ours s' s' := by
  intro store id hours hheld
  have haccounted := h store id hours hheld
  exact ⟨haccounted.1, hkept store id hours hheld haccounted.2⟩

theorem Hygienic.empty {s : SessionInner M} (h : s.services.psks = PskHeap.empty) :
    Hygienic ours s₀ s := by
  intro store id _ hheld
  rw [h] at hheld
  exact absurd rfl hheld

theorem sessionFromWire_psks {a : Archive M} {s : SessionInner M}
    (h : sessionFromWire a = .ok s) : s.services.psks = PskHeap.empty := by
  unfold sessionFromWire at h
  dsimp only at h
  split at h
  next => cases h
  next =>
    cases hinflight : inflightFromWire a.wire.round.pqInflight a.tail.responderWireCt with
    | error e =>
        rw [hinflight] at h
        cases h
    | ok inflight =>
        rw [hinflight] at h
        change (do
          let sendGroup <- loadCombinerGroup _ a.wire.sendGroup
          _ : Result (SessionInner M)) = _ at h
        cases hsend : loadCombinerGroup { a.wire.client with handle := 0 }
            a.wire.sendGroup with
        | error e =>
            rw [hsend] at h
            cases h
        | ok send =>
            rw [hsend] at h
            change (do
              let recvGroup <- loadRecv _ a.wire.recvGroup
              _ : Result (SessionInner M)) = _ at h
            cases hrecv : loadRecv { a.wire.client with handle := 0 }
                a.wire.recvGroup with
            | error e =>
                rw [hrecv] at h
                cases h
            | ok recv =>
                rw [hrecv] at h
                change (if _ then _ else _) = _ at h
                split at h
                next => cases h
                next =>
                  cases h
                  rfl

theorem hygienic_restarted {t : TwoMlsPqSession M} (h : Hygienic ours s₀ t.inner) :
    Hygienic ours s₀ t.restarted.inner := by
  unfold TwoMlsPqSession.restarted
  cases hrestore : restore t.pushed with
  | error e => exact h
  | ok s =>
      unfold restore restoreInner at hrestore
      cases harchive : reconcilePersisted (latest .core t.pushed)
          (latest .checkpoint t.pushed) with
      | error e =>
          rw [harchive] at hrestore
          cases hrestore
      | ok archive =>
          rw [harchive] at hrestore
          exact Hygienic.empty (sessionFromWire_psks hrestore)

theorem hygienic_reopened {t : TwoMlsPqSession M} (h : Hygienic ours s₀ t.inner) :
    Hygienic ours s₀ t.reopened.inner := by
  have hencoded := (leavesPsks_encodeBlob .checkpoint).keeps t.inner h
  unfold TwoMlsPqSession.reopened
  rcases hrun : (encodeBlob .checkpoint).run t.inner with ⟨r, s⟩
  rw [hrun] at hencoded
  cases r with
  | error e => exact hencoded
  | ok archive =>
      dsimp only
      cases hopened : sessionFromWire archive with
      | error e => exact hencoded
      | ok s' => exact Hygienic.empty (sessionFromWire_psks hopened)

theorem hygienic_live (cross : forall id, ours id -> IsCrossParty id)
    {t : TwoMlsPqSession M} (a : LifeAction M) (apart : Apart ours t.inner)
    (h : Hygienic ours t.inner t.inner) :
    Hygienic ours t.inner (t.live a).inner := by
  cases a with
  | reopen => exact hygienic_reopened h
  | host a =>
      cases a with
      | call call => exact hygienic_call cross call apart h
      | restart => exact hygienic_restarted h

/-!
## Where a call comes to the injection
-/

/-- The state a call on `s` injects in: a welcome that may join tracks the client's
stores first, a commit injects at once, and a bind has taken its secret and captured
the departing component. -/
inductive ComesToInject (s : SessionInner M) : SessionInner M -> Prop
  | welcome (missing : s.recvGroup = none) : ComesToInject s (trackPskStores s.client s)
  | commit : ComesToInject s s
  | bind {secret : Bytes} {s₁ s₂ : SessionInner M}
      (taken : takeResponderSecret.run s = (.ok secret, s₁))
      (captured : rememberRecvAttachmentComponent.run s₁ = (.ok (), s₂)) :
      ComesToInject s s₂

theorem processWelcome_injects (welcome : WelcomeBytes M)
    (establishment : WelcomeEstablishment) {s : SessionInner M}
    (missing : s.recvGroup = none) (send : s.sendGroup.isSome = true) :
    exists rest : Unit -> SessionOp M Unit,
      (processWelcome welcome establishment).run s =
        (injectSendPsks >>= rest).run (trackPskStores s.client s) := by
  have hjoins : ¬ s.recvGroup.isSome = true := by
    simp [missing]
  unfold processWelcome
  dsimp only
  rw [Op.run_bind_ok (Op.run_state s), if_neg hjoins, Op.run_bind_ok (Op.run_update _ s),
    if_pos send]
  exact ⟨_, rfl⟩

theorem applyCommitStaple_injects (commit : M.Message) {s : SessionInner M}
    (send : s.sendGroup.isSome = true) :
    exists rest : Unit -> SessionOp M LeafChanges,
      (applyCommitStaple commit).run s = (injectSendPsks >>= rest).run s := by
  unfold applyCommitStaple
  rw [Op.run_bind_ok (Op.run_state s), if_pos send]
  exact ⟨_, rfl⟩

theorem run_bind_congr {σ ε β γ : Type} {x y : Op σ ε β} {s : σ}
    (h : x.run s = y.run s) (f : β -> Op σ ε γ) :
    (x >>= f).run s = (y >>= f).run s := by
  rw [Op.run_bind, Op.run_bind, h]

theorem applyBindStaple_injects (tMessage pqMessage : Blob M) {secret : Bytes}
    {s s₁ s₂ : SessionInner M} (taken : takeResponderSecret.run s = (.ok secret, s₁))
    (captured : rememberRecvAttachmentComponent.run s₁ = (.ok (), s₂))
    (send : s₂.sendGroup.isSome = true) :
    exists (rest : Unit -> SessionOp M LeafChanges)
      (latch : Result LeafChanges -> SessionOp M LeafChanges),
        (applyBindStaple tMessage pqMessage).run s =
          (Op.attempt (injectSendPsks >>= rest) >>= latch).run s₂ := by
  have hbind : exists rest : Unit -> SessionOp M LeafChanges,
      (applyBind secret pqMessage tMessage).run s₂ =
        (injectSendPsks >>= rest).run s₂ := by
    unfold applyBind
    rw [Op.run_bind_ok (Op.run_state s₂)]
    dsimp only
    rw [if_pos send]
    exact ⟨_, rfl⟩
  rcases hbind with ⟨rest, hrest⟩
  have hattempt : (Op.attempt (applyBind secret pqMessage tMessage)).run s₂ =
      (Op.attempt (injectSendPsks >>= rest)).run s₂ := by
    rw [Op.run_attempt, Op.run_attempt, hrest]
  unfold applyBindStaple
  rw [Op.run_bind_ok taken, Op.run_bind_ok captured]
  exact ⟨rest, _, run_bind_congr hattempt _⟩

theorem ComesToInject.home {s s₁ : SessionInner M} (h : ComesToInject s s₁)
    (hs : Hygienic ours s s) : AtHome ours s s₁ := by
  have hstart : AtHome ours s s := ⟨hs, rfl⟩
  cases h with
  | welcome missing =>
      refine ⟨?_, injectionStores_trackPskStores _ s⟩
      exact (leavesPsks_update fun s => book_trackPskStores s.client s).keeps s hs
  | commit => exact hstart
  | bind taken captured =>
      have htaken := staysHome_takeResponderSecret.keeps s hstart
      rw [taken] at htaken
      have hcaptured := staysHome_rememberRecvAttachmentComponent.keeps _ htaken
      rw [captured] at hcaptured
      exact hcaptured

/-- In a life whose steps take no store out of reach that holds a PSK of our send
group, the tracked stores resolve behind every injection only the PSKs of the ledger. -/
theorem injection_vouches {s : SessionInner M} {t : TwoMlsPqSession M}
    (cross : forall id, ours id -> IsCrossParty id)
    (unheld : forall store id, ours id -> s.services.psks store id = none)
    (life : Run TwoMlsPqSession.live
      (fun t a => Apart ours t.inner ∧ KeepsHolders ours t.inner (t.live a).inner)
      (TwoMlsPqSession.fresh s) t)
    {s₁ s₂ : SessionInner M} (comes : ComesToInject t.inner s₁)
    (injected : injectSendPsks.run s₁ = (.ok (), s₂)) :
    Vouches ours s₂ := by
  have hlife : Hygienic ours t.inner t.inner := by
    refine life.invariant (I := fun t => Hygienic ours t.inner t.inner) ?_ ?_
    · intro t a h hadmitted
      exact (hygienic_live cross a hadmitted.1 h).moved hadmitted.2
    · intro store id hours hheld
      exact absurd (unheld store id hours) hheld
  have hvouches := injectSendPsks_vouches.ok (comes.home hlife)
    (show (injectSendPsks.run s₁).1 = .ok () by rw [injected])
  rw [injected] at hvouches
  exact fun store _ id hours hheld => hvouches.2 store id hours hheld

/-!
## Where a life starts
-/

theorem keeps_exportAndRegisterApq {P : StoreId -> PskId -> Prop}
    (cross : forall id, ours id -> IsCrossParty id) (client : TwoMlsPqPrincipal M)
    (g : M.Group) :
    Op.Keeps (fun sv : Services => HoldsOnly sv.psks ours P)
      (exportAndRegisterPsk client .apq g) := by
  have hexported : Op.Returns (onLocalGroup g (exportPsk .apq))
      fun exported => ¬ ours exported.1.storageId := by
    unfold onLocalGroup
    rcases hrun : (exportPsk .apq).run g with ⟨r, g'⟩
    cases r with
    | error e => exact Op.Returns.fail e
    | ok e => exact Op.Returns.value (not_ours_of_apq cross (g := g) (by rw [hrun]))
  unfold exportAndRegisterPsk
  refine Op.Keeps.knowing hexported (Op.Keeps.still ?_) fun exported hother => ?_
  · unfold onLocalGroup
    split
    · exact Op.Still.value _
    · exact Op.Still.fail _
  refine Op.Keeps.bind (Op.Keeps.update fun _ h =>
    HoldsOnly.register h _ fun hours => absurd hours hother) fun _ => ?_
  exact Op.Keeps.value _

theorem keeps_createCombinerSendGroup {P : StoreId -> PskId -> Prop}
    (cross : forall id, ours id -> IsCrossParty id) (classicalKp pqKp : Blob M)
    (client : TwoMlsPqPrincipal M) (appBinding : Option Bytes) (rnd : Nat -> M.Seed) :
    Op.Keeps (fun sv : Services => HoldsOnly sv.psks ours P)
      (createCombinerSendGroup classicalKp pqKp client appBinding rnd) := by
  unfold createCombinerSendGroup
  refine Op.Keeps.looking (Op.Still.ofExcept _) fun peerId => ?_
  refine Op.Keeps.bind (Op.Keeps.update fun _ h => h) fun _ => ?_
  refine Op.Keeps.looking (Op.Still.ofExcept _) fun tGid => ?_
  refine Op.Keeps.looking (Op.Still.ofExcept _) fun pqGid => ?_
  dsimp only
  refine Op.Keeps.looking Op.Still.state fun sv => ?_
  refine Op.Keeps.looking (Op.Still.ofExcept _) fun created => ?_
  refine Op.Keeps.bind (keeps_exportAndRegisterApq cross client _) fun exported => ?_
  refine Op.Keeps.looking (Op.Still.ofExcept _) fun creation => ?_
  refine Op.Keeps.looking Op.Still.state fun sv => ?_
  refine Op.Keeps.looking (Op.Still.ofExcept _) fun classical => ?_
  exact Op.Keeps.value _

theorem touches_initiateBirth (theirKp : CombinerKeyPackage M) (rnd : Nat -> M.Seed) :
    Touches [.half .sendClassical, .ledger, .round, .msg, .establishment]
      (initiateBirth theirKp rnd) := by
  unfold initiateBirth preCommitBootstrapKp recordBirth
  refine Op.Writes.bind (touches_update ?_) fun _ => ?_
  · intro s slot hslot
    cases slot with
    | establishment => exact absurd (by decide) hslot
    | _ => rfl
  refine Op.Writes.bind ?_ fun _ => ?_
  · refine Op.Writes.looking Op.Still.state fun s => ?_
    refine Op.Writes.looking (Op.Still.ofExcept _) fun generated => ?_
    refine Op.Writes.looking (Op.Still.ofExcept _) fun kp => ?_
    exact touches_update (confined_mapRound _ (by decide))
  refine Op.Writes.looking (still_composeInitialEnvelope _ _) fun envelope => ?_
  refine Op.Writes.bind (touches_update (confined_mapMsg _ (by decide))) fun _ => ?_
  refine Op.Writes.bind (touches_rememberSendPsk.mono (by decide)) fun _ => ?_
  refine Op.Writes.bind (touches_recordListenRendezvous.mono (by decide)) fun _ => ?_
  exact touches_recordPqHeaderKey.mono (by decide)

theorem initiate_holds {client : TwoMlsPqPrincipal M} {services : Services}
    {theirKp : CombinerKeyPackage M} {appBinding : Option Bytes} {rnd : Nat -> M.Seed}
    {s : SessionInner M} {P : StoreId -> PskId -> Prop}
    (cross : forall id, ours id -> IsCrossParty id)
    (h : initiate client services theirKp appBinding rnd = .ok s)
    (hservices : HoldsOnly services.psks ours P) :
    HoldsOnly s.services.psks ours P := by
  unfold initiate at h
  split at h
  · cases h
  · simp only [bind, Except.bind] at h
    split at h
    · cases h
    · split at h
      · cases h
      next their hparsed =>
        have hcreated := keeps_createCombinerSendGroup cross theirKp.classical
          theirKp.pq client appBinding (fun n => rnd (n + 2)) services hservices
        split at h
        · cases h
        next created services' hrun =>
          rw [hrun] at hcreated
          split at h
          · cases h
          next s' hbirth =>
            have hkept := touches_initiateBirth theirKp rnd
              (buildSession client services' created.1 none created.2 their.clientId
                true none (client.handle + 1)) .services (by decide)
            rw [hbirth] at hkept
            cases h
            change HoldsOnly (SessionInner.read .services s).psks ours P
            rw [hkept]
            exact hcreated

end

/-!
## Two rotations of a reference session
-/

namespace ReferencePsks

open ReferencePair

def firstPsk : PskId :=
  ((ledgerIds initiator).head?).getD (.application 0 [])

def First (id : PskId) : Prop :=
  id = firstPsk

def otherExports (s : SessionInner Reference.mls) : List PskId :=
  [Half.sendPq, Half.recvClassical, Half.recvPq].filterMap fun h =>
    match s.half h with
    | some g =>
        match ((exportPsk .crossParty).run g).1 with
        | .ok e => some e.storageId
        | .error _ => none
    | none => none

def apartCheck (s : SessionInner Reference.mls) : Bool :=
  !(otherExports s).contains firstPsk

theorem apart_of_check {s : SessionInner Reference.mls} (h : apartCheck s = true) :
    Apart First s := by
  intro half hother g held e hexported hfirst
  have hmem : firstPsk ∈ otherExports s := by
    unfold otherExports
    rw [List.mem_filterMap]
    refine ⟨half, ?_, ?_⟩
    · cases half with
      | sendClassical => exact absurd rfl hother
      | _ => decide
    · rw [held]
      dsimp only
      rw [hexported]
      exact congrArg some hfirst
  unfold apartCheck at h
  rw [Bool.not_eq_true', List.contains_eq_mem, decide_eq_false_iff_not] at h
  exact h hmem

def keepsCheck (s s' : SessionInner Reference.mls) : Bool :=
  (injectionStores s).all fun store =>
    (s'.services.psks store firstPsk).isNone || (injectionStores s').contains store

theorem keepsHolders_of_check {s s' : SessionInner Reference.mls}
    (h : keepsCheck s s' = true) : KeepsHolders First s s' := by
  intro store id hfirst hheld hstore
  rw [show id = firstPsk from hfirst] at hheld
  have hkept := List.all_eq_true.mp h store hstore
  rw [Bool.or_eq_true] at hkept
  rcases hkept with hnone | hmem
  · exact absurd (Option.isNone_iff_eq_none.mp hnone) hheld
  · exact List.contains_iff_mem.mp hmem

def offeredDigestOf (w : World Reference.mls) (side : Side) : Bytes :=
  (((w.session side).inner.msg.offeredProposal).map PeerProposal.digest).getD []

def approve (side : Side) : List (World Reference.mls -> Option (Action Reference.mls)) :=
  [fun w => some (.call side (.queueProposal (offeredDigestOf w side)))]

def offerAndCommit (id : Bytes) (n : Nat) :
    List (World Reference.mls -> Option (Action Reference.mls)) :=
  moves
      [.call .left (.prepareToEncrypt (some id) (rnd (5000 + 200 * n))),
        .call .left (.encrypt [1] (rnd (5050 + 200 * n))),
        ReferencePair.receive .right n] ++
    approve .right ++ moves (send .right (5100 + 200 * n))

def advance (n : Nat) : List (World Reference.mls -> Option (Action Reference.mls)) :=
  approve .left ++
    moves
      (send .left (6000 + 200 * n) ++ [ReferencePair.receive .right n] ++
        send .right (6100 + 200 * n) ++ [ReferencePair.receive .left n])

def rotating : List (World Reference.mls -> Option (Action Reference.mls)) :=
  moves greeting ++ offerAndCommit [0xA1] 1 ++ moves [ReferencePair.receive .left 1] ++
    offerAndCommit [0xA2] 2

def evicting : List (World Reference.mls -> Option (Action Reference.mls)) :=
  rotating ++ moves [ReferencePair.receive .left 2] ++
    (advance 3 ++ advance 4 ++ advance 5 ++ advance 6 ++ advance 7 ++ advance 8 ++
      advance 9 ++ advance 10) ++
    approve .right ++ moves (send .right 9000)

def watched (w : World Reference.mls) (a : Action Reference.mls) : Bool :=
  apartCheck (w.session .left).inner &&
    keepsCheck (w.session .left).inner ((w.act a).session .left).inner

def afterInjection (w : World Reference.mls) : SessionInner Reference.mls :=
  (injectSendPsks.run (w.session .left).inner).2

def olderStore : StoreId :=
  { client := 1, pq := false }

def crossPartyCheck : PskId -> Bool
  | .application componentId _ => componentId == PskDomain.crossParty.componentId
  | .injected _ _ => false

set_option maxRecDepth 4000 in
theorem psk_runs :
    crossPartyCheck firstPsk = true ∧
      (world.passes watched rotating = true ∧
        (injectSendPsks.run ((world.enact rotating).session .left).inner).1 = .ok ()) ∧
        world.passes (fun w _ => apartCheck (w.session .left).inner) evicting = true ∧
          (injectSendPsks.run ((world.enact evicting).session .left).inner).1 =
              .ok () ∧
            olderStore ∈ trackedStores (afterInjection (world.enact evicting)) ∧
            ((afterInjection (world.enact evicting)).services.psks olderStore
              firstPsk).isSome = true ∧
            firstPsk ∉ ledgerIds (afterInjection (world.enact evicting)) := by
  decide +kernel

set_option maxRecDepth 4000 in
theorem first_cross : forall id, First id -> IsCrossParty id := by
  intro id hfirst
  have hcross := psk_runs.1
  rw [<- show id = firstPsk from hfirst] at hcross
  cases id with
  | application componentId pskId =>
      exact ⟨pskId, congrArg (PskId.application · pskId) (beq_iff_eq.mp hcross)⟩
  | injected epoch groupId => exact absurd hcross Bool.false_ne_true

set_option maxRecDepth 4000 in
theorem first_unheld :
    forall store id, First id -> initiator.services.psks store id = none := by
  intro store id hfirst
  have hholds : HoldsOnly initiator.services.psks First fun _ _ => False :=
    initiate_holds first_cross (eq_ok_of_isSome initiation_isSome)
      fun store id _ hheld => absurd rfl hheld
  by_contra hheld
  exact hholds store id hfirst hheld

theorem watched_life {check : World Reference.mls -> Action Reference.mls -> Bool}
    (guard : TwoMlsPqSession Reference.mls -> TwoMlsPqSession Reference.mls -> Prop)
    (hcheck : forall w a, check w a = true ->
      guard (w.session .left) ((w.act a).session .left))
    {script : List (World Reference.mls -> Option (Action Reference.mls))}
    (passes : world.passes check script = true) :
    Run TwoMlsPqSession.live (fun t a => guard t (t.live a))
      (world.session .left) ((world.enact script).session .left) := by
  have hhosted : Run TwoMlsPqSession.host (fun t a => guard t (t.host a))
      (world.session .left) ((world.enact script).session .left) := by
    refine World.run_host .left ?_ ?_ (World.run_enact hcheck passes)
    · intro w call hguard
      simpa [World.act, TwoMlsPqSession.host] using hguard
    · intro w hguard
      simpa [World.act, TwoMlsPqSession.host] using hguard
  exact hhosted.map LifeAction.host (fun _ _ => rfl) fun _ _ ha => ha

theorem injected_at {w : World Reference.mls}
    (h : (injectSendPsks.run (w.session .left).inner).1 = .ok ()) :
    injectSendPsks.run (w.session .left).inner = (.ok (), afterInjection w) :=
  Prod.ext h rfl

set_option maxRecDepth 4000 in
/-- Behind one rotation, the initiator injects before the commit of its second. -/
theorem rotating_vouches :
    Vouches First (afterInjection (world.enact rotating)) := by
  have hlife := watched_life
    (fun t t' => Apart First t.inner ∧ KeepsHolders First t.inner t'.inner)
    (fun w a h => by
      unfold watched at h
      rw [Bool.and_eq_true] at h
      exact ⟨apart_of_check h.1, keepsHolders_of_check h.2⟩) psk_runs.2.1.1
  exact injection_vouches first_cross first_unheld hlife .commit
    (injected_at psk_runs.2.1.2)

set_option maxRecDepth 4000 in
/-- Behind two rotations, a store of the client in between resolves a PSK that the
ledger has dropped. -/
theorem rotated_store_resolves :
    ¬ forall (ours : PskId -> Prop) (s : SessionInner Reference.mls)
      (t : TwoMlsPqSession Reference.mls),
        (forall id, ours id -> IsCrossParty id) ->
        (forall store id, ours id -> s.services.psks store id = none) ->
        Run TwoMlsPqSession.live (fun t _ => Apart ours t.inner)
          (TwoMlsPqSession.fresh s) t ->
        forall s₁ s₂, ComesToInject t.inner s₁ -> injectSendPsks.run s₁ = (.ok (), s₂) ->
          Vouches ours s₂ := by
  intro h
  rcases psk_runs.2.2 with ⟨hpasses, hinjected, hstore, hresolved, hdropped⟩
  have hlife := watched_life (fun t _ => Apart First t.inner)
    (fun w _ h => apart_of_check h) hpasses
  have hvouches := h First initiator _ first_cross first_unheld hlife _ _ .commit
    (injected_at hinjected)
  have hnone : (afterInjection (world.enact evicting)).services.psks olderStore
      firstPsk ≠ none := by
    intro hnone
    rw [hnone] at hresolved
    exact Bool.false_ne_true hresolved
  exact hdropped (hvouches olderStore hstore firstPsk rfl hnone)

end ReferencePsks

end Session
end TwoMlsPq
