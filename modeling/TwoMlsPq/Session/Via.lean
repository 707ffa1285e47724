import TwoMlsPq.Session.Quiet

/-!
# Operations as paths

`Via A p x q` says that an operation started where `p` holds of the core moves
it along a path of events in `A`, whether it succeeds or fails, and that a
success establishes `q`.  Facts that survive quiet changes are `Stable`; every
quiet operation carries them along.
-/

namespace TwoMlsPq
namespace Session

open Foundation Apq

section

variable {M : MlsRs} {α β : Type}

def Goes (A : Event M -> Prop) (s s' : SessionInner M) : Prop :=
  Path A s.core s'.core

instance (A : Event M -> Prop) : IsTrans (SessionInner M) (Goes A) where
  trans _ _ _ := Path.trans

instance (A : Event M -> Prop) : Std.Refl (Goes (M := M) A) where
  refl _ := Path.refl

def Stable (p : Core M -> Prop) : Prop :=
  forall c c', Quiet c c' -> p c -> p c'

theorem still_readHalf (h : Half) (e : TwoMlsPqError) :
    Op.Still (readHalf h e : SessionOp M M.Group) :=
  Op.Still.bind Op.Still.state fun _ => Op.Still.ofOption _ _

theorem still_sealFrame : Op.Still (sealFrame : SessionOp M Unit) :=
  Op.Still.bind (still_readHalf _ _) fun _ =>
    Op.Still.bind (Op.Still.ofExcept _) fun _ => Op.Still.value ()

theorem still_ensureEstablishmentDelegated :
    Op.Still (ensureEstablishmentDelegated : SessionOp M Unit) :=
  Op.Still.bind Op.Still.state fun _ => Op.Still.ensure _ _

theorem still_sealSideBand (frame : SideBand M) : Op.Still (sealSideBand frame) := by
  unfold sealSideBand
  refine Op.Still.bind Op.Still.state fun s => ?_
  refine Op.Still.bind (still_readHalf _ _) fun g => ?_
  split
  · exact still_sealFrame
  · split
    · exact Op.Still.bind (Op.Still.ofExcept _) fun _ => Op.Still.value ()
    · exact still_sealFrame

theorem run_readHalf {s : SessionInner M} {h : Half} {g : M.Group}
    (held : s.half h = some g) (e : TwoMlsPqError) :
    (readHalf h e).run s = (.ok g, s) := by
  unfold readHalf
  rw [Op.run_bind_ok (Op.run_state s), held]
  rfl

def Via (A : Event M -> Prop) (p : Core M -> Prop) (x : SessionOp M α)
    (q : α -> Core M -> Prop) : Prop :=
  Op.Moves (Goes A) (fun s => p s.core) x (fun a s => q a s.core)

/-!
## Stable facts
-/

theorem Stable.and {p q : Core M -> Prop} (hp : Stable p) (hq : Stable q) :
    Stable fun c => p c ∧ q c :=
  fun c c' h hc => ⟨hp c c' h hc.1, hq c c' h hc.2⟩

theorem Stable.const (P : Prop) : Stable fun _ : Core M => P :=
  fun _ _ _ h => h

theorem Stable.slots {p : Core M -> Prop}
    (h : forall c half', p c -> p { c with half := half' }) :
    Stable p := by
  intro c c' hq hc
  rw [hq.2]
  exact h c _ hc

theorem Stable.held {h : Half} {p : M.Group -> Prop}
    (hp : forall g g', Undisturbed g g' -> p g -> p g') :
    Stable fun c : Core M => exists g, c.half h = some g ∧ p g := by
  rintro c c' hq ⟨g, held, hg⟩
  rcases hq.half_some held with ⟨g', held', same⟩
  exact ⟨g', held', hp g g' same hg⟩

theorem Stable.missing (h : Half) :
    Stable fun c : Core M => c.half h = none :=
  fun _ _ hq => hq.half_none

theorem Stable.live (h : Half) : Stable fun c : Core M => c.half h ≠ none := by
  intro c c' hq hlive hmissing
  have hkept := hq.1 h
  rw [hmissing] at hkept
  cases hheld : c.half h with
  | none => exact hlive hheld
  | some g =>
      rw [hheld] at hkept
      exact hkept

theorem Stable.imp {P : Prop} {p : Core M -> Prop} (hp : P -> Stable p) :
    Stable fun c => P -> p c :=
  fun c c' h hc hP => hp hP c c' h (hc hP)

theorem Stable.all {ι : Sort _} {p : ι -> Core M -> Prop}
    (hp : forall i, Stable (p i)) :
    Stable fun c => forall i, p i c :=
  fun c c' h hc i => hp i c c' h (hc i)

theorem Stable.epoch (h : Half) (e : Option Nat) :
    Stable fun c : Core M => c.epoch h = e := by
  intro c c' hq hc
  rw [hq.epoch h]
  exact hc

/-!
## Rules
-/

namespace Via

variable {A : Event M -> Prop} {p p' : Core M -> Prop}
variable {q q' : α -> Core M -> Prop} {x : SessionOp M α}

theorem goes (h : Via A p x q) {s : SessionInner M} (hs : p s.core) :
    Path A s.core (x.run s).2.core :=
  (h s hs).1

theorem result (h : Via A p x q) {s : SessionInner M} (hs : p s.core) {a : α}
    (hrun : (x.run s).1 = .ok a) :
    q a (x.run s).2.core :=
  (h s hs).2 a hrun

theorem bind {f : α -> SessionOp M β} {r : β -> Core M -> Prop}
    (hx : Via A p x q) (hf : forall a, Via A (q a) (f a) r) :
    Via A p (x >>= f) r :=
  Op.Moves.bind hx hf

theorem weaken (hx : Via A p x q)
    (hpre : forall c, p' c -> p c) (hpost : forall a c, q a c -> q' a c) :
    Via A p' x q' :=
  Op.Moves.weaken hx (fun s => hpre s.core) (fun a s => hpost a s.core)

theorem pre (hx : Via A p x q) (hpre : forall c, p' c -> p c) :
    Via A p' x q :=
  hx.weaken hpre fun _ _ h => h

theorem post (hx : Via A p x q) (hpost : forall a c, q a c -> q' a c) :
    Via A p x q' :=
  hx.weaken (fun _ h => h) hpost

theorem mono {B : Event M -> Prop} (hx : Via A p x q)
    (hAB : forall e, A e -> B e) :
    Via B p x q :=
  fun s hs => ⟨(hx s hs).1.mono hAB, (hx s hs).2⟩

theorem assume {P : Prop} (h : P -> Via A p x q) :
    Via A (fun c => P ∧ p c) x q :=
  fun s hs => h hs.1 s hs.2

theorem never : Via A (fun _ => False) x q :=
  fun _ hs => hs.elim

theorem value (a : α) (h : forall c, p c -> q a c) :
    Via A p (Pure.pure a : SessionOp M α) q :=
  (Op.Moves.value a).post fun _ s hs => by
    rw [hs.1]
    exact h s.core hs.2

theorem ite {P : Prop} [Decidable P] {y : SessionOp M α}
    (hx : Via A p x q) (hy : Via A p y q) :
    Via A p (if P then x else y) q := by
  split
  · exact hx
  · exact hy

theorem fail (e : TwoMlsPqError) : Via A p (Op.fail e : SessionOp M α) q :=
  Op.Moves.fail e

theorem state :
    Via A p (Op.state : SessionOp M (SessionInner M))
      (fun s c => s.core = c ∧ p c) :=
  (Op.Moves.state).post fun a s hs => by
    rw [hs.1]
    exact ⟨rfl, hs.2⟩

theorem ofExcept (r : Result α) :
    Via A p (Op.ofExcept r : SessionOp M α) (fun a c => r = .ok a ∧ p c) :=
  Op.Moves.ofExcept r

theorem ofOption (o : Option α) (e : TwoMlsPqError) :
    Via A p (Op.ofOption o e : SessionOp M α) (fun a c => o = some a ∧ p c) :=
  Op.Moves.ofOption o e

theorem ensure (P : Prop) [Decidable P] (e : TwoMlsPqError) :
    Via A p (Op.ensure P e : SessionOp M Unit) (fun _ c => P ∧ p c) :=
  Op.Moves.ensure P e

theorem mapError (f : TwoMlsPqError -> TwoMlsPqError) (hx : Via A p x q) :
    Via A p (Op.mapError f x) q :=
  Op.Moves.mapError hx

theorem attempt (hx : Via A p x q) :
    Via A p (Op.attempt x) (fun r c => forall a, r = .ok a -> q a c) :=
  Op.Moves.attempt hx

theorem quiet (hA : A .quiet) (hp : Stable p) (hx : QuietOp x) :
    Via A p x (fun _ c => p c) := by
  intro s hs
  exact ⟨Path.single hA (Step.quiet (hx s)), fun a _ => hp _ _ (hx s) hs⟩

theorem quietly {f : α -> SessionOp M β} {r : β -> Core M -> Prop}
    (hA : A .quiet) (hp : Stable p) (hx : QuietOp x)
    (hf : forall a, Via A p (f a) r) :
    Via A p (x >>= f) r :=
  bind (quiet hA hp hx) hf

theorem looking {f : α -> SessionOp M β} {r : β -> Core M -> Prop}
    (hx : Op.Still x) (hf : forall a, Via A p (f a) r) :
    Via A p (x >>= f) r := by
  refine bind (q := fun _ c => p c) (fun s hs => ?_) hf
  rw [hx s]
  exact ⟨Path.refl, fun _ _ => hs⟩

theorem step {f : SessionInner M -> SessionInner M} {q : Unit -> Core M -> Prop}
    {e : Event M} (hA : A e)
    (h : forall s, p s.core -> Step e s.core (f s).core ∧ q () (f s).core) :
    Via A p (Op.update f) q :=
  Op.Moves.update fun s hs => ⟨Path.single hA (h s hs).1, (h s hs).2⟩

theorem readHalf (h : Half) (e : TwoMlsPqError) :
    Via A p (Session.readHalf h e) (fun g c => c.half h = some g ∧ p c) := by
  refine bind state fun s => ?_
  refine (ofOption (s.half h) e).post ?_
  rintro g c ⟨hg, hs, hc⟩
  refine ⟨?_, hc⟩
  rw [← hs]
  exact hg

theorem update {f : SessionInner M -> SessionInner M} {q : Unit -> Core M -> Prop}
    (h : forall s, p s.core -> Path A s.core (f s).core ∧ q () (f s).core) :
    Via A p (Op.update f) q :=
  Op.Moves.update h

theorem callHalf {h : Half} {missing : TwoMlsPqError}
    {err : MlsError -> TwoMlsPqError}
    {f : MlsEnv -> M.Group -> Except MlsError α × M.Group}
    (hcall : forall c env g, p c -> c.half h = some g ->
      Path A c (c.setHalf h (f env g).2) ∧
        forall a, (f env g).1 = .ok a -> q a (c.setHalf h (f env g).2)) :
    Via A p (Session.callHalf h missing err f) q := by
  intro s hs
  unfold Session.callHalf Session.onHalf HalfOp.call
  rw [Op.run_ofResult]
  cases held : s.half h with
  | none => exact ⟨Path.refl, by intro a ha; cases ha⟩
  | some g =>
      cases s.halfStore h with
      | none => exact ⟨Path.refl, by intro a ha; cases ha⟩
      | some store =>
          have hstep := hcall s.core (s.services.env store) g hs held
          simp only [Op.run_ofResult]
          rcases hrun : f (s.services.env store) g with ⟨r, g'⟩
          rw [hrun] at hstep
          have hcore :
              ({ s.setHalf h g' with services := s.services } :
                SessionInner M).core = s.core.setHalf h g' :=
            core_setHalf held g' s.services rfl
          cases r with
          | ok a =>
              refine ⟨?_, ?_⟩
              · change Path A s.core (SessionInner.core _)
                rw [hcore]
                exact hstep.1
              · intro b hb
                cases hb
                rw [hcore]
                exact hstep.2 _ rfl
          | error e =>
              refine ⟨?_, by intro b hb; cases hb⟩
              change Path A s.core (SessionInner.core _)
              rw [hcore]
              exact hstep.1

theorem onHalf {h : Half} {missing : TwoMlsPqError} {y : StoreId -> HalfOp M α}
    (hauth : forall store hs,
      ((y store).run hs).2.services.auth = hs.services.auth)
    (hcall : forall c store hs, p c -> c.half h = some hs.group ->
      Path A c (c.setHalf h ((y store).run hs).2.group) ∧
        forall a, ((y store).run hs).1 = .ok a ->
          q a (c.setHalf h ((y store).run hs).2.group)) :
    Via A p (Session.onHalf h missing y) q := by
  intro s hs
  unfold Session.onHalf
  rw [Op.run_ofResult]
  cases held : s.half h with
  | none => exact ⟨Path.refl, by intro a ha; cases ha⟩
  | some g =>
      cases s.halfStore h with
      | none => exact ⟨Path.refl, by intro a ha; cases ha⟩
      | some store =>
          have hstep :=
            hcall s.core store { services := s.services, group := g } hs held
          have hcore :=
            core_setHalf held
              ((y store).run { services := s.services, group := g }).2.group _
              (hauth store { services := s.services, group := g })
          refine ⟨?_, ?_⟩
          · change Path A s.core (SessionInner.core _)
            rw [hcore]
            exact hstep.1
          · intro a ha
            rw [hcore]
            exact hstep.2 a ha

end Via

end

end Session
end TwoMlsPq
