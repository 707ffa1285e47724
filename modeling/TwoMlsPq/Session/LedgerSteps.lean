import Mathlib.Data.Nat.Basic
import TwoMlsPq.Foundation.Windows
import TwoMlsPq.Session.Lives
import TwoMlsPq.Session.Parking

/-!
# What the ledgers can do

The ledgers are dated by the epochs of the halves they were filled from.  `Books` is
that part of the session, with the mutation counter beside it, and `BookStep` says
once what an operation can ever do to it: the clocks run, an entry is made at the
reading of its clock and only where the ledger has none of that date, and entries are
forgotten.  Every body is then a path of such steps.
-/

namespace TwoMlsPq
namespace Session

open Foundation Apq

structure Books where
  ledger : LedgerState
  epoch : Half -> Option Nat
  counter : Nat

def Books.mapLedger (b : Books) (f : LedgerState -> LedgerState) : Books :=
  { b with ledger := f b.ledger }

section

variable {M : MlsRs} {α β : Type}

def SessionInner.books (s : SessionInner M) : Books :=
  { ledger := s.ledger, epoch := s.epoch, counter := s.stateSeq }

/-!
## Steps
-/

/-- Enter the exported PSK of an epoch, and retire what the window pushes out. -/
def enterSendPsk (epoch : Nat) (exported : ExportedPsk) (l : LedgerState) : LedgerState :=
  let grown := l.sendPskLedger ++ [(epoch, exported)]
  let evicted := grown.take (grown.length - sendPskWindow)
  { l with
    sendPskLedger := keepNewest sendPskWindow grown
    retiredSendPsks := l.retiredSendPsks ++ evicted.map fun entry => entry.2.storageId }

def enterListening (epoch : Nat) (secret header : Bytes) (l : LedgerState) :
    LedgerState :=
  { l with
    listenRendezvous := insertEpoch epoch secret l.listenRendezvous
    recvHeaderKeys := insertEpoch epoch header l.recvHeaderKeys }

def pruneListening (keep : Nat -> Bool) (l : LedgerState) : LedgerState :=
  { l with
    listenRendezvous := l.listenRendezvous.filter fun e => keep e.1
    recvHeaderKeys := l.recvHeaderKeys.filter fun e => keep e.1 }

def enterHeaderPq (epoch : Nat) (key : Bytes) (l : LedgerState) : LedgerState :=
  { l with
    recvHeaderKeysPq :=
      keepNewest pqHeaderWindow (insertEpoch epoch key l.recvHeaderKeysPq) }

def enterSendAttachment (epoch : Nat) (component : Bytes) (l : LedgerState) :
    LedgerState :=
  { l with
    sendAttachmentLedger :=
      ledgerAttachmentComponent epoch component l.sendAttachmentLedger }

def enterRecvAttachment (epoch : Nat) (component : Bytes) (l : LedgerState) :
    LedgerState :=
  { l with
    recvAttachmentLedger :=
      ledgerAttachmentComponent epoch component l.recvAttachmentLedger }

inductive BookStep (b : Books) : Books -> Prop
  | advance {epoch : Half -> Option Nat} (later : forall h, Later (b.epoch h) (epoch h)) :
      BookStep b { b with epoch := epoch }
  | count : BookStep b { b with counter := b.counter + 1 }
  | track {stores : List StoreId} {handle : Nat} :
      BookStep b (b.mapLedger fun l =>
        { l with pskStores := stores, pskStoresFrom := handle })
  | rememberPsk {epoch : Nat} {exported : ExportedPsk}
      (now : b.epoch .sendClassical = some epoch)
      (new : hasEpoch b.ledger.sendPskLedger epoch = false) :
      BookStep b (b.mapLedger (enterSendPsk epoch exported))
  | drain : BookStep b (b.mapLedger fun l => { l with retiredSendPsks := [] })
  | attachSend {epoch : Nat} {component : Bytes}
      (now : b.epoch .sendClassical = some epoch)
      (new : hasEpoch b.ledger.sendAttachmentLedger epoch = false) :
      BookStep b (b.mapLedger (enterSendAttachment epoch component))
  | attachRecv {epoch : Nat} {component : Bytes}
      (now : b.epoch .recvClassical = some epoch)
      (new : hasEpoch b.ledger.recvAttachmentLedger epoch = false) :
      BookStep b (b.mapLedger (enterRecvAttachment epoch component))
  | listen {epoch : Nat} {secret header : Bytes}
      (now : b.epoch .sendClassical = some epoch)
      (new : hasEpoch b.ledger.listenRendezvous epoch = false) :
      BookStep b (b.mapLedger (enterListening epoch secret header))
  | prune {keep : Nat -> Bool}
      (current : forall epoch, b.epoch .sendClassical = some epoch -> keep epoch = true) :
      BookStep b (b.mapLedger (pruneListening keep))
  | listenPq {epoch : Nat} {key : Bytes} (now : b.epoch .sendPq = some epoch)
      (new : hasEpoch b.ledger.recvHeaderKeysPq epoch = false) :
      BookStep b (b.mapLedger (enterHeaderPq epoch key))
  | injectCross {epoch : Nat} (now : b.epoch .recvClassical = some epoch)
      (unspent : b.ledger.lastCrossInjected ≠ some epoch) :
      BookStep b (b.mapLedger fun l => { l with lastCrossInjected := some epoch })

theorem bookStep_ofClocks {s s' : SessionInner M} (hledger : s'.ledger = s.ledger)
    (hcounter : s'.stateSeq = s.stateSeq)
    (later : forall h, Later (s.epoch h) (s'.epoch h)) : BookStep s.books s'.books := by
  have hstep : BookStep s.books { s.books with epoch := s'.epoch } :=
    BookStep.advance later
  have hbooks : s'.books = { s.books with epoch := s'.epoch } := by
    unfold SessionInner.books
    rw [hledger, hcounter]
  rw [hbooks]
  exact hstep

def BookPath : Books -> Books -> Prop :=
  Relation.ReflTransGen BookStep

theorem BookPath.invariant {J : Books -> Prop}
    (hstep : forall b b', BookStep b b' -> J b -> J b') {b b' : Books}
    (h : BookPath b b') (hb : J b) : J b' := by
  induction h with
  | refl => exact hb
  | tail _ hlast ih => exact hstep _ _ hlast ih

theorem BookPath.counter {b b' : Books} (h : BookPath b b') :
    b.counter <= b'.counter := by
  refine h.invariant (J := fun b' => b.counter <= b'.counter) (fun b₁ b₂ hstep hle => ?_)
    (Nat.le_refl _)
  cases hstep with
  | count => exact Nat.le_succ_of_le hle
  | _ => exact hle

theorem BookPath.later {b b' : Books} (h : BookPath b b') (half : Half) :
    Later (b.epoch half) (b'.epoch half) := by
  refine h.invariant (J := fun b' => Later (b.epoch half) (b'.epoch half)) ?_
    (Later.refl _)
  intro b₁ b₂ hstep hlater
  cases hstep with
  | advance later => exact hlater.trans (later half)
  | _ => exact hlater

/-!
## Operations as paths of the books
-/

def Slot.unbooked : Slot -> Bool
  | .ledger => false
  | .counter => false
  | _ => true

def Slot.apart : Slot -> Bool
  | .half _ => false
  | .ledger => false
  | .counter => false
  | _ => true

def BookMove (s s' : SessionInner M) : Prop :=
  BookPath s.books s'.books

instance : IsTrans (SessionInner M) BookMove where
  trans _ _ _ := Relation.ReflTransGen.trans

instance : Std.Refl (BookMove (M := M)) where
  refl _ := Relation.ReflTransGen.refl

/-- The operation keeps the books in order wherever it is started. -/
def Tidy (x : SessionOp M α) : Prop :=
  forall s, BookMove s (x.run s).2

def TidyFrom (P : Books -> Prop) (x : SessionOp M α) : Prop :=
  forall s, P s.books -> BookMove s (x.run s).2

def Untold (x : SessionOp M α) : Prop :=
  forall s, (x.run s).2.books = s.books

namespace Untold

variable {x : SessionOp M α} {W : List Slot}

theorem tidy (hx : Untold x) : Tidy x := by
  intro s
  unfold BookMove
  rw [hx s]
  exact Relation.ReflTransGen.refl

theorem still (hx : Op.Still x) : Untold x := by
  intro s
  rw [hx s]

theorem update {f : SessionInner M -> SessionInner M}
    (h : forall s, (f s).books = s.books) : Untold (Op.update f) :=
  h

theorem books_eq {s s' : SessionInner M} (hledger : s'.ledger = s.ledger)
    (hcounter : s'.stateSeq = s.stateSeq) (hepoch : forall h, s'.epoch h = s.epoch h) :
    s'.books = s.books := by
  unfold SessionInner.books
  rw [hledger, hcounter]
  congr 1
  funext h
  exact hepoch h

theorem ofQuiet (hx : QuietOp x) (hw : Touches W x) (hW : W.all Slot.unbooked = true) :
    Untold x := by
  intro s
  have hout := List.all_eq_true.mp hW
  refine books_eq (hw s .ledger fun h => ?_) (hw s .counter fun h => ?_) fun h => ?_
  · exact absurd (hout _ h) (by decide)
  · exact absurd (hout _ h) (by decide)
  · exact Quiet.epoch (hx s) h

theorem ofTouches (hw : Touches W x) (hW : W.all Slot.apart = true) : Untold x := by
  intro s
  have hout := List.all_eq_true.mp hW
  refine books_eq (hw s .ledger fun h => ?_) (hw s .counter fun h => ?_) fun half => ?_
  · exact absurd (hout _ h) (by decide)
  · exact absurd (hout _ h) (by decide)
  · unfold SessionInner.epoch
    rw [hw.half (fun h => absurd (hout _ h) (by simp [Slot.apart])) s]

end Untold

namespace Tidy

variable {x : SessionOp M α}

theorem value (a : α) : Tidy (pure a : SessionOp M α) :=
  fun _ => Relation.ReflTransGen.refl

theorem fail (e : TwoMlsPqError) : Tidy (Op.fail e : SessionOp M α) :=
  fun _ => Relation.ReflTransGen.refl

theorem bind {f : α -> SessionOp M β} (hx : Tidy x) (hf : forall a, Tidy (f a)) :
    Tidy (x >>= f) := by
  intro s
  have hfirst := hx s
  rw [Op.run_bind]
  rcases hrun : x.run s with ⟨r, s'⟩
  rw [hrun] at hfirst
  cases r with
  | ok a => exact Relation.ReflTransGen.trans hfirst (hf a s')
  | error e => exact hfirst

theorem looking {f : α -> SessionOp M β} (hx : Op.Still x) (hf : forall a, Tidy (f a)) :
    Tidy (x >>= f) :=
  bind (Untold.still hx).tidy hf

theorem attempt (hx : Tidy x) : Tidy (Op.attempt x) :=
  hx

theorem mapError {f : TwoMlsPqError -> TwoMlsPqError} (hx : Tidy x) :
    Tidy (Op.mapError f x) := by
  intro s
  have hmove := hx s
  unfold Op.mapError
  rw [Op.run_ofResult]
  rcases hrun : x.run s with ⟨r, s'⟩
  rw [hrun] at hmove
  cases r with
  | ok a => exact hmove
  | error e => exact hmove

theorem ite {c : Prop} [Decidable c] {y : SessionOp M α} (hx : Tidy x) (hy : Tidy y) :
    Tidy (if c then x else y) := by
  split
  · exact hx
  · exact hy

theorem confined {W : List Slot} {f : SessionInner M -> SessionInner M}
    (hf : Confined W f) (hW : W.all Slot.apart = true) : Tidy (Op.update f) :=
  (Untold.ofTouches (touches_update hf) hW).tidy

theorem mapMsg (f : SessionInner M -> MessageState M -> MessageState M) :
    Tidy (Op.update fun s => s.mapMsg (f s)) :=
  confined (W := [.msg]) (confined_mapMsg f List.mem_cons_self) rfl

theorem mapRound (f : SessionInner M -> RoundState M -> RoundState M) :
    Tidy (Op.update fun s => s.mapRound (f s)) :=
  confined (W := [.round]) (confined_mapRound f List.mem_cons_self) rfl

theorem services (f : SessionInner M -> Services) :
    Tidy (Op.update fun s : SessionInner M => { s with services := f s }) :=
  confined (W := [.services]) (confined_services f List.mem_cons_self) rfl

theorem step {f : SessionInner M -> SessionInner M}
    (h : forall s, BookStep s.books (f s).books) : Tidy (Op.update f) :=
  fun s => Relation.ReflTransGen.single (h s)

theorem onHalf {h : Half} {missing : TwoMlsPqError} {y : StoreId -> HalfOp M α}
    (hy : forall store hs,
      M.currentEpoch hs.group <= M.currentEpoch ((y store).run hs).2.group) :
    Tidy (onHalf h missing y) := by
  intro s
  unfold Session.onHalf
  rw [Op.run_ofResult]
  cases held : s.half h with
  | none => exact Relation.ReflTransGen.refl
  | some g =>
      cases hstore : s.halfStore h with
      | none => exact Relation.ReflTransGen.refl
      | some store =>
          dsimp only
          have hrises := hy store { services := s.services, group := g }
          rcases hrun : (y store).run { services := s.services, group := g } with
            ⟨r, after⟩
          rw [hrun] at hrises
          refine Relation.ReflTransGen.single (bookStep_ofClocks ?_ ?_ fun half => ?_)
          · cases h <;> rfl
          · cases h <;> rfl
          change Later (s.epoch half) ((s.setHalf h after.group).epoch half)
          unfold SessionInner.epoch
          by_cases heq : half = h
          · subst heq
            rw [half_setHalf_held held, held]
            exact hrises
          · rw [half_setHalf_other heq]
            exact Later.refl _

theorem callHalf {h : Half} {missing : TwoMlsPqError} {err : MlsError -> TwoMlsPqError}
    {f : MlsEnv -> M.Group -> Except MlsError α × M.Group}
    (hf : forall env g, M.currentEpoch g <= M.currentEpoch (f env g).2) :
    Tidy (callHalf h missing err f) := by
  apply Tidy.onHalf
  intro store hs
  rw [run_call]
  exact hf _ hs.group

end Tidy

namespace TidyFrom

variable {P Q : Books -> Prop} {x : SessionOp M α}

theorem tidy (hx : forall b, TidyFrom (fun b' => b' = b) x) : Tidy x :=
  fun s => hx s.books s rfl

theorem ofTidy (hx : Tidy x) : TidyFrom P x :=
  fun s _ => hx s

theorem bind {f : α -> SessionOp M β} (hx : TidyFrom P x)
    (hkeeps : forall s, P s.books -> Q (x.run s).2.books)
    (hf : forall a, TidyFrom Q (f a)) : TidyFrom P (x >>= f) := by
  intro s hs
  have hfirst := hx s hs
  have hkept := hkeeps s hs
  rw [Op.run_bind]
  rcases hrun : x.run s with ⟨r, s'⟩
  rw [hrun] at hfirst hkept
  cases r with
  | ok a => exact Relation.ReflTransGen.trans hfirst (hf a s' hkept)
  | error e => exact hfirst

theorem untold {f : α -> SessionOp M β} (hx : Untold x)
    (hf : forall a, TidyFrom P (f a)) : TidyFrom P (x >>= f) := by
  refine bind (ofTidy hx.tidy) (fun s hs => ?_) hf
  rw [hx s]
  exact hs

theorem looking {f : α -> SessionOp M β} (hx : Op.Still x)
    (hf : forall a, TidyFrom P (f a)) : TidyFrom P (x >>= f) :=
  untold (Untold.still hx) hf

theorem reading {f : SessionInner M -> SessionOp M β}
    (hf : forall s, P s.books -> TidyFrom (fun b => b = s.books) (f s)) :
    TidyFrom P (Op.state >>= f) :=
  fun s hs => hf s hs s rfl

theorem learning {f : α -> SessionOp M β} {K : α -> Books -> Prop} (hx : Op.Still x)
    (hK : forall s a, P s.books -> x.run s = (.ok a, s) -> K a s.books)
    (hf : forall a, TidyFrom (K a) (f a)) : TidyFrom P (x >>= f) := by
  intro s hs
  have hstill := hx s
  cases hresult : (x.run s).1 with
  | error e =>
      have hrun : x.run s = (.error e, s) := Prod.ext hresult hstill
      rw [Op.run_bind_error hrun]
      exact Relation.ReflTransGen.refl
  | ok a =>
      have hrun : x.run s = (.ok a, s) := Prod.ext hresult hstill
      rw [Op.run_bind_ok hrun]
      exact hf a s (hK s a hs hrun)

theorem readHalf {h : Half} {e : TwoMlsPqError} {f : M.Group -> SessionOp M β} {b : Books}
    (hf : forall g, b.epoch h = some (M.currentEpoch g) ->
      TidyFrom (fun b' => b' = b) (f g)) :
    TidyFrom (fun b' => b' = b) (readHalf h e >>= f) := by
  refine learning (K := fun g b' => b' = b ∧ b.epoch h = some (M.currentEpoch g))
    (still_readHalf h e) ?_ fun g => ?_
  · rintro s g rfl hread
    refine ⟨rfl, ?_⟩
    unfold Session.readHalf at hread
    rw [Op.run_bind_ok (Op.run_state s)] at hread
    change (s.half h).map M.currentEpoch = some (M.currentEpoch g)
    rw [(Op.ofOption_ok hread).1]
    rfl
  · intro s hs
    exact hf g hs.2 s hs.1

theorem ite {c : Prop} [Decidable c] {y : SessionOp M α} (hx : c -> TidyFrom P x)
    (hy : ¬ c -> TidyFrom P y) : TidyFrom P (if c then x else y) := by
  split
  next hc => exact hx hc
  next hc => exact hy hc

theorem attempt (hx : TidyFrom P x) : TidyFrom P (Op.attempt x) :=
  hx

theorem mapError {f : TwoMlsPqError -> TwoMlsPqError} (hx : TidyFrom P x) :
    TidyFrom P (Op.mapError f x) := by
  intro s hs
  have hmove := hx s hs
  unfold Op.mapError
  rw [Op.run_ofResult]
  rcases hrun : x.run s with ⟨r, s'⟩
  rw [hrun] at hmove
  cases r with
  | ok a => exact hmove
  | error e => exact hmove

theorem value (a : α) : TidyFrom P (pure a : SessionOp M α) :=
  ofTidy (Tidy.value a)

theorem step {f : SessionInner M -> SessionInner M}
    (h : forall s, P s.books -> BookStep s.books (f s).books) :
    TidyFrom P (Op.update f) :=
  fun s hs => Relation.ReflTransGen.single (h s hs)

end TidyFrom

end

section

variable {M : MlsRs} (L : Lawful M)
include L

/-!
## Ledgers
-/

omit L in
theorem hasEpoch_ofFind {α : Type} {entries : List (Nat × α)} {epoch : Nat}
    (h : entries.find? (fun e => e.1 == epoch) = none) :
    hasEpoch entries epoch = false := by
  unfold hasEpoch
  rw [List.any_eq_false]
  exact List.find?_eq_none.mp h

theorem untold_exportCrossParty (h : Half) (missing : TwoMlsPqError)
    (domain : PskDomain) :
    Untold (onHalf h missing fun _ => HalfOp.ofGroup (exportPsk (M := M) domain)) :=
  Untold.ofQuiet (QuietOp.ofGroup (exportPsk_undisturbed L domain))
    (touches_ofGroup (W := [.half h]) h missing _ List.mem_cons_self) rfl

theorem untold_exportAttachment (h : Half) (missing : TwoMlsPqError) :
    Untold (onHalf h missing fun _ =>
      HalfOp.ofGroup (exportAttachmentComponent (M := M))) :=
  Untold.ofQuiet (QuietOp.ofGroup (exportAttachmentComponent_undisturbed L))
    (touches_ofGroup (W := [.half h]) h missing _ List.mem_cons_self) rfl

theorem untold_writeToStorage (h : Half) (missing : TwoMlsPqError)
    (err : MlsError -> TwoMlsPqError) :
    Untold (callHalf h missing err fun _ => M.writeToStorage) :=
  Untold.ofQuiet (QuietOp.callHalf fun _ g => L.writeStorage g)
    (touches_callHalf (W := [.half h]) h missing _ _ List.mem_cons_self) rfl

theorem tidy_rememberSendPsk : Tidy (rememberSendPsk : SessionOp M Unit) := by
  apply TidyFrom.tidy
  intro b
  unfold rememberSendPsk
  refine TidyFrom.readHalf fun g hnow => ?_
  refine TidyFrom.reading fun s hs => ?_
  subst hs
  refine TidyFrom.ite (fun _ => TidyFrom.value ()) fun hnew => ?_
  refine TidyFrom.untold (untold_exportCrossParty L _ _ _) fun exported => ?_
  refine TidyFrom.step fun s' hs' => ?_
  rw [<- hs'] at hnow
  refine BookStep.rememberPsk hnow ?_
  rw [hs']
  exact Bool.eq_false_iff.mpr hnew

omit L in
theorem books_mapLedger (s : SessionInner M) (f : LedgerState -> LedgerState) :
    (s.mapLedger f).books = s.books.mapLedger f :=
  rfl

omit L in
theorem books_forgetAll (ids : List PskId) (s : SessionInner M) :
    (ids.foldl (fun s id => s.forgetStores (injectionStores s) id) s).books = s.books := by
  induction ids generalizing s with
  | nil => rfl
  | cons id rest ih =>
      rw [List.foldl_cons, ih]
      rfl

theorem tidy_injectSendPsks : Tidy (injectSendPsks : SessionOp M Unit) := by
  unfold injectSendPsks
  refine Tidy.bind (tidy_rememberSendPsk L) fun _ => ?_
  refine Tidy.bind ?_ fun _ => ?_
  · exact (Untold.ofTouches (touches_update fun s =>
      confined_registerAll s.ledger.sendPskLedger List.mem_cons_self s) (W := [.services])
      rfl).tidy
  · apply Tidy.step
    intro s
    rw [books_mapLedger, books_forgetAll]
    exact BookStep.drain

theorem tidy_injectSendPsksIf (b : Bool) :
    Tidy (if b then injectSendPsks else pure () : SessionOp M Unit) :=
  Tidy.ite (tidy_injectSendPsks L) (Tidy.value ())

theorem tidy_sendAttachmentComponent :
    Tidy (sendAttachmentComponent : SessionOp M Bytes) := by
  apply TidyFrom.tidy
  intro b
  unfold sendAttachmentComponent
  refine TidyFrom.readHalf fun g hnow => ?_
  refine TidyFrom.reading fun s hs => ?_
  subst hs
  split
  next => exact TidyFrom.value _
  next hfind =>
    refine TidyFrom.untold (untold_exportAttachment L _ _) fun component => ?_
    refine TidyFrom.bind (TidyFrom.step fun s' hs' => ?_) (Q := fun _ => True)
      (fun _ _ => True.intro) fun _ => TidyFrom.value _
    rw [<- hs'] at hnow
    refine BookStep.attachSend hnow ?_
    rw [hs']
    exact hasEpoch_ofFind hfind

theorem tidyFrom_captureRecvAttachmentComponent (epoch : Nat) :
    TidyFrom (fun b => b.epoch .recvClassical = some epoch ∧
        hasEpoch b.ledger.recvAttachmentLedger epoch = false)
      (captureRecvAttachmentComponent epoch : SessionOp M Bytes) := by
  unfold captureRecvAttachmentComponent
  refine TidyFrom.untold (untold_exportAttachment L _ _) fun component => ?_
  refine TidyFrom.bind (TidyFrom.step fun s hs => ?_) (Q := fun _ => True)
    (fun _ _ => True.intro) fun _ => TidyFrom.value _
  exact BookStep.attachRecv hs.1 hs.2

theorem tidy_rememberRecvAttachmentComponent :
    Tidy (rememberRecvAttachmentComponent : SessionOp M Unit) := by
  apply TidyFrom.tidy
  intro b
  unfold rememberRecvAttachmentComponent
  refine TidyFrom.reading fun s _ => ?_
  split
  next => exact TidyFrom.value _
  next epoch hnow =>
    refine TidyFrom.ite (fun _ => TidyFrom.value _) fun hnew => ?_
    refine TidyFrom.bind (fun s' hs' => ?_) (Q := fun _ => True) (fun _ _ => True.intro)
      fun _ => TidyFrom.value _
    refine tidyFrom_captureRecvAttachmentComponent L epoch s' ⟨?_, ?_⟩
    · rw [hs']
      exact hnow
    · rw [hs']
      exact Bool.eq_false_iff.mpr hnew

theorem tidy_recvAttachmentComponent (epoch : Nat) :
    Tidy (recvAttachmentComponent epoch : SessionOp M Bytes) := by
  apply TidyFrom.tidy
  intro b
  unfold recvAttachmentComponent
  refine TidyFrom.reading fun s _ => ?_
  split
  next => exact TidyFrom.value _
  next hfind =>
    refine TidyFrom.ite (fun hnow => ?_) fun _ => TidyFrom.ofTidy (Tidy.fail _)
    refine TidyFrom.mapError fun s' hs' => ?_
    refine tidyFrom_captureRecvAttachmentComponent L epoch s' ⟨?_, ?_⟩
    · rw [hs']
      exact hnow
    · rw [hs']
      exact hasEpoch_ofFind hfind

theorem tidy_recordListenRendezvous :
    Tidy (recordListenRendezvous : SessionOp M Unit) := by
  apply TidyFrom.tidy
  intro b
  unfold recordListenRendezvous
  refine TidyFrom.reading fun s hs => ?_
  split
  next => exact TidyFrom.value _
  next g held =>
    have hnow : s.books.epoch .sendClassical = some (M.currentEpoch g) := by
      change (s.half .sendClassical).map M.currentEpoch = _
      rw [held]
      rfl
    dsimp only
    refine TidyFrom.ite (fun _ => TidyFrom.value _) fun hnew => ?_
    refine TidyFrom.looking (Op.Still.ofExcept _) fun secret => ?_
    refine TidyFrom.looking (Op.Still.ofExcept _) fun header => ?_
    refine TidyFrom.bind (TidyFrom.step fun s' hs' => ?_)
      (Q := fun b => b.epoch .sendClassical = some (M.currentEpoch g))
      (fun s' hs' => ?_) fun _ => ?_
    · rw [<- hs'] at hnow
      refine BookStep.listen hnow ?_
      rw [hs']
      exact Bool.eq_false_iff.mpr hnew
    · rw [<- hs'] at hnow
      exact hnow
    refine TidyFrom.untold (untold_writeToStorage L _ _ _) fun _ => ?_
    refine TidyFrom.looking (still_readHalf _ _) fun g' => ?_
    refine TidyFrom.step fun s' hs' => ?_
    have hkeeps : forall epoch, s'.books.epoch .sendClassical = some epoch ->
        (epoch == M.currentEpoch g || M.storedEpoch g' epoch) = true := by
      intro e he
      rw [hs'] at he
      cases he
      simp
    exact BookStep.prune hkeeps

omit L in
theorem tidy_recordPqHeaderKey : Tidy (recordPqHeaderKey : SessionOp M Unit) := by
  apply TidyFrom.tidy
  intro b
  unfold recordPqHeaderKey
  refine TidyFrom.reading fun s hs => ?_
  split
  next => exact TidyFrom.value _
  next g held =>
    have hnow : s.books.epoch .sendPq = some (M.currentEpoch g) := by
      change (s.half .sendPq).map M.currentEpoch = _
      rw [held]
      rfl
    dsimp only
    refine TidyFrom.ite (fun _ => TidyFrom.value _) fun hnew => ?_
    refine TidyFrom.looking (Op.Still.ofExcept _) fun key => ?_
    refine TidyFrom.step fun s' hs' => ?_
    rw [<- hs'] at hnow
    refine BookStep.listenPq hnow ?_
    rw [hs']
    exact Bool.eq_false_iff.mpr hnew

omit L in
theorem tidy_recordPqHeaderKeyPostCommit :
    Tidy (recordPqHeaderKeyPostCommit : SessionOp M Unit) :=
  Tidy.bind tidy_recordPqHeaderKey.attempt fun _ => Tidy.value ()

theorem tidy_crossPskForCommit :
    Tidy (crossPskForCommit : SessionOp M (Option ExportedPsk)) := by
  apply TidyFrom.tidy
  intro b
  unfold crossPskForCommit
  refine TidyFrom.readHalf fun g hnow => ?_
  refine TidyFrom.reading fun s hs => ?_
  subst hs
  refine TidyFrom.ite (fun _ => TidyFrom.value _) fun hunspent => ?_
  refine TidyFrom.untold (untold_exportCrossParty L _ _ _) fun exported => ?_
  refine TidyFrom.looking Op.Still.state fun s₁ => ?_
  refine TidyFrom.looking (Op.Still.ofOption _ _) fun send => ?_
  refine TidyFrom.bind (TidyFrom.step fun s' hs' => ?_) (Q := fun _ => True)
    (fun _ _ => True.intro) fun _ => TidyFrom.value _
  rw [<- hs'] at hnow
  refine BookStep.injectCross hnow ?_
  rw [hs']
  exact hunspent

omit L in
theorem tidy_trackPskStores (client : SessionInner M -> TwoMlsPqPrincipal M) :
    Tidy (Op.update fun s : SessionInner M => trackPskStores (client s) s) := by
  intro s
  change BookPath s.books (trackPskStores (client s) s).books
  unfold trackPskStores
  split
  · exact Relation.ReflTransGen.refl
  · exact Relation.ReflTransGen.single BookStep.track

end

end Session
end TwoMlsPq
