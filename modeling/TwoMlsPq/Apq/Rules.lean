import Mathlib.Data.List.Perm.Subperm
import TwoMlsPq.Apq.Group
import TwoMlsPq.Foundation.ByteVector
import TwoMlsPq.Foundation.Runs

/-!
# The operation whitelist of a group

Every group is a pair driving a small slice of MLS: one creation commit that
adds the peer, then commits that fold at most one update of the other member
and inject PSKs.  `filter_proposals` vetoes every other bundle, for commits
that are built and for commits that are received.  How a commit is built and
what it makes of the group is the library's, and enters as a parameter with laws.
-/

namespace TwoMlsPq
namespace Apq

open Foundation

/-!
## Bundles
-/

inductive RuleError where
  | externalCommit
  | forbiddenProposal
  | badCreation
  | badUpdate
  | resumptionPsk
  | notTwoParty
  | badAppDataUpdate
deriving DecidableEq, Repr

structure ProposalInfo (α : Type) where
  sender : ProposalSender
  proposal : α
deriving DecidableEq, Repr

inductive PskReference where
  | external (id : Bytes)
  | application (componentId : Nat) (id : Bytes)
  | resumption (groupId : Bytes) (epoch : Nat)
deriving DecidableEq, Repr

/-- A PSK for which both accessors of the library are `None` is a resumption
PSK. -/
def PskReference.isResumption : PskReference -> Bool
  | .external _ => false
  | .application _ _ => false
  | .resumption _ _ => true

structure RawCustomProposal where
  proposalType : Nat
  data : Bytes
deriving DecidableEq, Repr

structure ProposalBundle (Leaf : Type) where
  adds : List (ProposalInfo Leaf)
  updates : List (ProposalInfo Leaf)
  removes : List (ProposalInfo Nat)
  psks : List (ProposalInfo PskReference)
  reInits : List (ProposalInfo Bytes)
  externalInits : List (ProposalInfo Bytes)
  groupContextExts : List (ProposalInfo Bytes)
  customs : List (ProposalInfo RawCustomProposal)

inductive CommitSource where
  | existingMember (index : Nat)
  | newMember
deriving DecidableEq, Repr

structure RuledGroup (Leaf : Type) where
  cipherSuite : Nat
  epoch : Nat
  members : List (Nat × Leaf)

/-!
## The attestation payload
-/

def appDataUpdate : Nat :=
  0x0008

def appDataOpUpdate : Nat :=
  1

structure AppDataUpdateWire where
  componentId : Nat
  op : Nat
  update : Bytes
deriving DecidableEq, Repr

structure MlsCodec where
  appDataUpdateWire : Bytes -> Option (AppDataUpdateWire × Bytes)
  apqInfoUpdate : Bytes -> Option (ApqInfoUpdate × Bytes)

def decodeAll {α : Type} (decode : Bytes -> Option (α × Bytes)) (bytes : Bytes) :
    Option α :=
  match decode bytes with
  | some (value, []) => some value
  | _ => none

def ApqInfoUpdate.fromCustomProposal (codec : MlsCodec)
    (proposal : RawCustomProposal) : Option ApqInfoUpdate :=
  if proposal.proposalType ≠ appDataUpdate then none
  else
    match decodeAll codec.appDataUpdateWire proposal.data with
    | none => none
    | some wire =>
        if wire.componentId ≠ apqComponentId ∨ wire.op ≠ appDataOpUpdate then none
        else decodeAll codec.apqInfoUpdate wire.update

/-!
## The filter
-/

section

variable {Leaf : Type}

/-- The epoch field that attests the half being committed to. -/
def attestedEpoch (isPq : Bool) (update : ApqInfoUpdate) : Nat :=
  if isPq then update.pqEpoch else update.tEpoch

def checkCustom (codec : MlsCodec) (committer : Nat) (g : RuledGroup Leaf)
    (proposals : ProposalBundle Leaf) (custom : ProposalInfo RawCustomProposal) :
    Except RuleError Unit :=
  if custom.proposal.proposalType ≠ appDataUpdate then .error .forbiddenProposal
  else if custom.sender ≠ .member committer then .error .badAppDataUpdate
  else
    match suiteIsPq g.cipherSuite with
    | none => .error .badAppDataUpdate
    | some isPq =>
        if isPq = true ∧ proposals.updates ≠ [] then .error .badAppDataUpdate
        else
          match ApqInfoUpdate.fromCustomProposal codec custom.proposal with
          | none => .error .badAppDataUpdate
          | some update =>
              if attestedEpoch isPq update ≠ g.epoch + 1 then .error .badAppDataUpdate
              else .ok ()

def checkCustoms (codec : MlsCodec) (committer : Nat) (g : RuledGroup Leaf)
    (proposals : ProposalBundle Leaf) : Except RuleError Unit :=
  match proposals.customs with
  | [] => .ok ()
  | [custom] => checkCustom codec committer g proposals custom
  | _ :: _ :: _ => .error .badAppDataUpdate

def isPeerUpdate (committer : Nat) (update : ProposalInfo Leaf) : Bool :=
  match update.sender with
  | .member index => index != committer
  | _ => false

def checkMembership (committer : Nat) (g : RuledGroup Leaf)
    (proposals : ProposalBundle Leaf) : Except RuleError Unit :=
  match g.members.length with
  | 1 =>
      if proposals.adds.length ≠ 1 ∨ proposals.updates ≠ [] then .error .badCreation
      else .ok ()
  | 2 =>
      if proposals.adds ≠ [] then .error .forbiddenProposal
      else if proposals.updates.length > 1 then .error .badUpdate
      else if proposals.updates.all (isPeerUpdate committer) then .ok ()
      else .error .badUpdate
  | _ => .error .notTwoParty

def filterProposals (codec : MlsCodec) (source : CommitSource) (g : RuledGroup Leaf)
    (proposals : ProposalBundle Leaf) :
    Except RuleError (ProposalBundle Leaf) :=
  match source with
  | .newMember => .error .externalCommit
  | .existingMember committer =>
      if proposals.removes ≠ [] ∨ proposals.reInits ≠ [] ∨
          proposals.externalInits ≠ [] ∨ proposals.groupContextExts ≠ [] then
        .error .forbiddenProposal
      else
        match checkCustoms codec committer g proposals with
        | .error e => .error e
        | .ok _ =>
            if proposals.psks.any fun p => p.proposal.isResumption then
              .error .resumptionPsk
            else
              match checkMembership committer g proposals with
              | .error e => .error e
              | .ok _ => .ok proposals

structure CommitOptions where
  pathRequired : Bool
deriving DecidableEq, Repr

def commitOptions (g : RuledGroup Leaf) (proposals : ProposalBundle Leaf) :
    CommitOptions :=
  let isFullCommit :=
    proposals.customs.any fun c => c.proposal.proposalType == appDataUpdate
  let isPqHalf := (suiteIsPq g.cipherSuite).getD false
  { pathRequired := isFullCommit && !isPqHalf }

/-!
## The library's part
-/

structure GroupCommit (Leaf : Type) where
  source : CommitSource
  proposals : ProposalBundle Leaf
  path : Option Leaf

namespace RuledGroup

def indices (g : RuledGroup Leaf) : List Nat :=
  g.members.map Prod.fst

end RuledGroup

def keptIndices (g : RuledGroup Leaf) (c : GroupCommit Leaf) : List Nat :=
  g.indices.filter fun index =>
    !(c.proposals.removes.map ProposalInfo.proposal).contains index

/-- Building commits and applying them. -/
structure CommitLibrary (Leaf : Type) where
  apply : RuledGroup Leaf -> GroupCommit Leaf -> RuledGroup Leaf
  builds : RuledGroup Leaf -> GroupCommit Leaf -> Prop

def Accepted (codec : MlsCodec) (g : RuledGroup Leaf) (c : GroupCommit Leaf) : Prop :=
  filterProposals codec c.source g c.proposals = .ok c.proposals

/-- Where a leaf of the group comes from after a commit: it was there, it is the
committer's new one, its own holder proposed it, or it was added. -/
def LeafFrom (g : RuledGroup Leaf) (c : GroupCommit Leaf) (committer : Nat)
    (member : Nat × Leaf) : Prop :=
  member ∈ g.members ∨
    (member.1 = committer ∧ c.path = some member.2) ∨
    (exists update, update ∈ c.proposals.updates ∧
      update.sender = .member member.1 ∧ update.proposal = member.2) ∨
    exists add, add ∈ c.proposals.adds ∧ add.proposal = member.2

namespace CommitLibrary

/-- What the library documents of commits by existing members. -/
structure Lawful (codec : MlsCodec) (lib : CommitLibrary Leaf) : Prop where
  suite : forall g c, (lib.apply g c).cipherSuite = g.cipherSuite
  epoch : forall g c, (lib.apply g c).epoch = g.epoch + 1
  -- removes blank their leaves, and each add fills a leaf that is blank then
  roster : forall g c committer, c.source = .existingMember committer ->
    exists joined,
      (lib.apply g c).indices.Perm (keptIndices g c ++ joined) ∧
        joined.length = c.proposals.adds.length ∧
        forall index, index ∈ joined -> index ∉ keptIndices g c
  leaves : forall g c committer member, c.source = .existingMember committer ->
    member ∈ (lib.apply g c).members -> LeafFrom g c committer member
  -- a build runs the rules, and puts a path where their options ask for one
  filtered : forall g c, lib.builds g c -> Accepted codec g c
  path : forall g c, lib.builds g c ->
    (commitOptions g c.proposals).pathRequired = true -> c.path.isSome = true

end CommitLibrary

/-!
## What the filter lets through
-/

structure Whitelisted (codec : MlsCodec) (g : RuledGroup Leaf) (c : GroupCommit Leaf)
    (committer : Nat) : Prop where
  source : c.source = .existingMember committer
  removes : c.proposals.removes = []
  reInits : c.proposals.reInits = []
  externalInits : c.proposals.externalInits = []
  groupContextExts : c.proposals.groupContextExts = []
  psks : forall p, p ∈ c.proposals.psks -> p.proposal.isResumption = false
  oneAttestation : c.proposals.customs.length <= 1
  attestation : forall custom, custom ∈ c.proposals.customs ->
    custom.sender = .member committer ∧
      exists isPq update, suiteIsPq g.cipherSuite = some isPq ∧
        ApqInfoUpdate.fromCustomProposal codec custom.proposal = some update ∧
        attestedEpoch isPq update = g.epoch + 1 ∧
        (isPq = true -> c.proposals.updates = [])

inductive MembershipKept (g : RuledGroup Leaf) (c : GroupCommit Leaf)
    (committer : Nat) : Prop where
  | creation (h : g.members.length = 1) (add : ProposalInfo Leaf)
      (hadds : c.proposals.adds = [add]) (hupdates : c.proposals.updates = [])
  | steady (h : g.members.length = 2) (hadds : c.proposals.adds = [])
      (hcount : c.proposals.updates.length <= 1)
      (hpeer : forall update, update ∈ c.proposals.updates ->
        isPeerUpdate committer update = true)

theorem checkCustom_ok {codec : MlsCodec} {committer : Nat} {g : RuledGroup Leaf}
    {proposals : ProposalBundle Leaf} {custom : ProposalInfo RawCustomProposal}
    (h : checkCustom codec committer g proposals custom = .ok ()) :
    custom.sender = .member committer ∧
      exists isPq update, suiteIsPq g.cipherSuite = some isPq ∧
        ApqInfoUpdate.fromCustomProposal codec custom.proposal = some update ∧
        attestedEpoch isPq update = g.epoch + 1 ∧
        (isPq = true -> proposals.updates = []) := by
  unfold checkCustom at h
  split at h
  · cases h
  split at h
  · cases h
  next hsender =>
    refine ⟨Classical.not_not.mp hsender, ?_⟩
    cases hsuite : suiteIsPq g.cipherSuite with
    | none =>
        rw [hsuite] at h
        cases h
    | some isPq =>
        rw [hsuite] at h
        dsimp only at h
        split at h
        · cases h
        next hupdates =>
          cases hdecode : ApqInfoUpdate.fromCustomProposal codec custom.proposal with
          | none =>
              rw [hdecode] at h
              cases h
          | some update =>
              rw [hdecode] at h
              dsimp only at h
              split at h
              · cases h
              next hepoch =>
                refine ⟨isPq, update, rfl, rfl, Classical.not_not.mp hepoch, ?_⟩
                intro hpq
                by_contra hne
                exact hupdates ⟨hpq, hne⟩

theorem checkCustoms_ok {codec : MlsCodec} {committer : Nat} {g : RuledGroup Leaf}
    {proposals : ProposalBundle Leaf}
    (h : checkCustoms codec committer g proposals = .ok ()) :
    proposals.customs.length <= 1 ∧
      forall custom, custom ∈ proposals.customs ->
        checkCustom codec committer g proposals custom = .ok () := by
  unfold checkCustoms at h
  split at h
  next hnil => simp [hnil]
  next custom hone =>
    rw [hone]
    refine ⟨Nat.le_refl 1, ?_⟩
    intro custom' hmem
    rw [List.mem_singleton.mp hmem]
    exact h
  next => cases h

theorem checkMembership_ok {committer : Nat} {g : RuledGroup Leaf}
    {c : GroupCommit Leaf} (h : checkMembership committer g c.proposals = .ok ()) :
    MembershipKept g c committer := by
  unfold checkMembership at h
  split at h
  next hone =>
    split at h
    · cases h
    next hshape =>
      rcases not_or.mp hshape with ⟨hadds, hupdates⟩
      rcases List.length_eq_one_iff.mp (Classical.not_not.mp hadds) with ⟨add, hadd⟩
      exact MembershipKept.creation hone add hadd (Classical.not_not.mp hupdates)
  next htwo =>
    split at h
    · cases h
    next hadds =>
      split at h
      · cases h
      next hcount =>
        split at h
        next hpeer =>
          exact MembershipKept.steady htwo (Classical.not_not.mp hadds)
            (Nat.le_of_not_lt hcount) fun update hmem => List.all_eq_true.mp hpeer update hmem
        · cases h
  next => cases h

theorem accepted_whitelisted {codec : MlsCodec} {g : RuledGroup Leaf}
    {c : GroupCommit Leaf} (h : Accepted codec g c) :
    exists committer, Whitelisted codec g c committer ∧ MembershipKept g c committer := by
  unfold Accepted filterProposals at h
  split at h
  · cases h
  next committer hsource =>
    split at h
    · cases h
    next hforbidden =>
      rcases not_or.mp hforbidden with ⟨hremoves, hrest⟩
      rcases not_or.mp hrest with ⟨hreInits, hrest⟩
      rcases not_or.mp hrest with ⟨hexternal, hcontext⟩
      split at h
      · cases h
      next hcustoms =>
        split at h
        · cases h
        next hpsks =>
          split at h
          · cases h
          next hmembership =>
            rcases checkCustoms_ok hcustoms with ⟨hone, hchecked⟩
            refine ⟨committer, ?_, checkMembership_ok hmembership⟩
            constructor
            · exact hsource
            · exact Classical.not_not.mp hremoves
            · exact Classical.not_not.mp hreInits
            · exact Classical.not_not.mp hexternal
            · exact Classical.not_not.mp hcontext
            · intro p hp
              by_contra hres
              exact hpsks (List.any_eq_true.mpr ⟨p, hp, by simpa using hres⟩)
            · exact hone
            · intro custom hmem
              exact checkCustom_ok (hchecked custom hmem)

/-!
## What an accepted commit changes
-/

section

variable {codec : MlsCodec} {lib : CommitLibrary Leaf} {g g' : RuledGroup Leaf}
  {c : GroupCommit Leaf} {committer : Nat}

theorem keptIndices_all (hremoves : c.proposals.removes = []) :
    keptIndices g c = g.indices := by
  unfold keptIndices
  rw [hremoves]
  simp

theorem length_indices (g : RuledGroup Leaf) : g.indices.length = g.members.length :=
  List.length_map _

theorem accepted_roster (lawful : lib.Lawful codec)
    (hlisted : Whitelisted codec g c committer) :
    exists joined, (lib.apply g c).indices.Perm (g.indices ++ joined) ∧
      joined.length = c.proposals.adds.length ∧
      forall index, index ∈ joined -> index ∉ g.indices := by
  have hroster := lawful.roster g c committer hlisted.source
  rw [keptIndices_all hlisted.removes] at hroster
  exact hroster

theorem accepted_keeps_pair (lawful : lib.Lawful codec) (hpair : g.members.length = 2)
    (h : Accepted codec g c) :
    (lib.apply g c).indices.Perm g.indices := by
  rcases accepted_whitelisted h with ⟨committer, hlisted, hkept⟩
  rcases accepted_roster lawful hlisted with ⟨joined, hroster, hlength, _⟩
  cases hkept with
  | creation hone add hadds hupdates => omega
  | steady htwo hadds hcount hpeer =>
      rw [hadds] at hlength
      have hnone : joined = [] := List.eq_nil_of_length_eq_zero hlength
      rw [hnone, List.append_nil] at hroster
      exact hroster

theorem accepted_creates_pair (lawful : lib.Lawful codec) (hlone : g.members.length = 1)
    (h : Accepted codec g c) :
    exists joined, joined ∉ g.indices ∧
      (lib.apply g c).indices.Perm (g.indices ++ [joined]) := by
  rcases accepted_whitelisted h with ⟨committer, hlisted, hkept⟩
  rcases accepted_roster lawful hlisted with ⟨joined, hroster, hlength, hfresh⟩
  cases hkept with
  | steady htwo hadds hcount hpeer => omega
  | creation hone add hadds hupdates =>
      rw [hadds] at hlength
      rcases List.length_eq_one_iff.mp hlength with ⟨index, rfl⟩
      exact ⟨index, hfresh index (List.mem_singleton_self index), hroster⟩

def LeafKept (g : RuledGroup Leaf) (c : GroupCommit Leaf) (committer : Nat)
    (member : Nat × Leaf) : Prop :=
  member ∈ g.members ∨
    (member.1 = committer ∧ c.path = some member.2) ∨
    (member.1 ≠ committer ∧ c.proposals.updates =
      [{ sender := .member member.1, proposal := member.2 }])

theorem accepted_leaves (lawful : lib.Lawful codec)
    (hlisted : Whitelisted codec g c committer) (hadds : c.proposals.adds = [])
    (hcount : c.proposals.updates.length <= 1)
    (hpeer : forall update, update ∈ c.proposals.updates ->
      isPeerUpdate committer update = true)
    {member : Nat × Leaf} (h : member ∈ (lib.apply g c).members) :
    LeafKept g c committer member := by
  rcases lawful.leaves g c committer member hlisted.source h with
    hold | hpath | ⟨update, hupdate, hsender, hleaf⟩ | ⟨add, hadd, _⟩
  · exact Or.inl hold
  · exact Or.inr (Or.inl hpath)
  · refine Or.inr (Or.inr ⟨?_, ?_⟩)
    · have hother := hpeer update hupdate
      unfold isPeerUpdate at hother
      rw [hsender] at hother
      simpa using hother
    · have hone : c.proposals.updates.length = 1 :=
        Nat.le_antisymm hcount (List.length_pos_of_mem hupdate)
      rcases List.length_eq_one_iff.mp hone with ⟨only, hall⟩
      rw [hall] at hupdate ⊢
      rw [← List.mem_singleton.mp hupdate, ← hsender, ← hleaf]
  · rw [hadds] at hadd
    cases hadd

/-- An attestation names the epoch its half is at after the commit. -/
theorem accepted_attests (lawful : lib.Lawful codec)
    (hlisted : Whitelisted codec g c committer)
    {custom : ProposalInfo RawCustomProposal} (h : custom ∈ c.proposals.customs) :
    exists isPq update, suiteIsPq (lib.apply g c).cipherSuite = some isPq ∧
      ApqInfoUpdate.fromCustomProposal codec custom.proposal = some update ∧
      attestedEpoch isPq update = (lib.apply g c).epoch := by
  rcases (hlisted.attestation custom h).2 with ⟨isPq, update, hsuite, hdecode, hnext, _⟩
  refine ⟨isPq, update, ?_, hdecode, ?_⟩
  · rw [lawful.suite]
    exact hsuite
  · rw [lawful.epoch]
    exact hnext

theorem built_has_path (lawful : lib.Lawful codec) (h : lib.builds g c)
    {custom : ProposalInfo RawCustomProposal} (hcustom : custom ∈ c.proposals.customs)
    (hclassical : suiteIsPq g.cipherSuite = some false) :
    c.path.isSome = true := by
  apply lawful.path g c h
  unfold commitOptions
  rcases accepted_whitelisted (lawful.filtered g c h) with ⟨committer, hlisted, _⟩
  rcases (hlisted.attestation custom hcustom).2 with ⟨isPq, update, _, hdecode, _⟩
  have htype : custom.proposal.proposalType = appDataUpdate := by
    by_contra hne
    unfold ApqInfoUpdate.fromCustomProposal at hdecode
    rw [if_pos hne] at hdecode
    cases hdecode
  have hfull : c.proposals.customs.any
      (fun c => c.proposal.proposalType == appDataUpdate) = true :=
    List.any_eq_true.mpr ⟨custom, hcustom, by rw [htype]; rfl⟩
  dsimp only
  rw [hfull, hclassical]
  rfl

/-!
## Whole histories
-/

abbrev History (codec : MlsCodec) (lib : CommitLibrary Leaf) :
    RuledGroup Leaf -> RuledGroup Leaf -> Prop :=
  Run lib.apply (Accepted codec)

theorem history_keeps_pair (lawful : lib.Lawful codec) (hpair : g.members.length = 2)
    (h : History codec lib g g') :
    g'.indices.Perm g.indices ∧ g'.members.length = 2 := by
  refine Run.invariant
    (I := fun g' => g'.indices.Perm g.indices ∧ g'.members.length = 2) ?_ h
    ⟨List.Perm.refl _, hpair⟩
  rintro g₁ c ⟨hindices, htwo⟩ haccepted
  have hkept := accepted_keeps_pair lawful htwo haccepted
  refine ⟨hkept.trans hindices, ?_⟩
  rw [← length_indices, hkept.length_eq, length_indices]
  exact htwo

theorem history_of_lone {g₀ : RuledGroup Leaf} (lawful : lib.Lawful codec)
    (hlone : g₀.members.length = 1) (h : History codec lib g₀ g) :
    g = g₀ ∨ g.members.length = 2 := by
  refine Run.invariant (I := fun g => g = g₀ ∨ g.members.length = 2) ?_ h (Or.inl rfl)
  rintro g₁ c hg₁ haccepted
  right
  rcases hg₁ with rfl | htwo
  · rcases accepted_creates_pair lawful hlone haccepted with ⟨joined, _, hindices⟩
    rw [← length_indices, hindices.length_eq, List.length_append, length_indices, hlone]
    rfl
  · exact (history_keeps_pair lawful htwo (Run.refl.step haccepted)).2

/-- Along every history of accepted commits that starts with the creator alone,
the group goes from one member to two once and keeps these two; a later commit
replaces at most the committer's leaf and the leaf the other member updated;
every accepted commit is on the whitelist and attests the epoch it leads to; and a
FULL commit built on a classical half has an update path. -/
theorem accepted_histories_two_party (lawful : lib.Lawful codec) {g₀ : RuledGroup Leaf}
    (hlone : g₀.members.length = 1) (hrun : History codec lib g₀ g) :
    (g = g₀ ∨ g.members.length = 2) ∧
    (forall g', g.members.length = 2 -> History codec lib g g' ->
      g'.indices.Perm g.indices ∧ g'.members.length = 2) ∧
    (forall c, Accepted codec g c ->
      (g.members.length = 1 -> exists joined, joined ∉ g.indices ∧
        (lib.apply g c).indices.Perm (g.indices ++ [joined])) ∧
      exists committer, Whitelisted codec g c committer ∧
        (forall custom, custom ∈ c.proposals.customs ->
          exists isPq update, suiteIsPq (lib.apply g c).cipherSuite = some isPq ∧
            ApqInfoUpdate.fromCustomProposal codec custom.proposal = some update ∧
            attestedEpoch isPq update = (lib.apply g c).epoch) ∧
        (g.members.length = 2 -> forall member, member ∈ (lib.apply g c).members ->
          LeafKept g c committer member)) ∧
    forall c custom, lib.builds g c -> custom ∈ c.proposals.customs ->
      suiteIsPq g.cipherSuite = some false -> c.path.isSome = true := by
  refine ⟨history_of_lone lawful hlone hrun, ?_, ?_, ?_⟩
  · intro g' hpair hlater
    exact history_keeps_pair lawful hpair hlater
  · intro c haccepted
    refine ⟨fun hone => accepted_creates_pair lawful hone haccepted, ?_⟩
    rcases accepted_whitelisted haccepted with ⟨committer, hlisted, hkept⟩
    refine ⟨committer, hlisted, fun custom hcustom => ?_, ?_⟩
    · exact accepted_attests lawful hlisted hcustom
    · intro hpair member hmember
      cases hkept with
      | creation hone add hadds hupdates => omega
      | steady htwo hadds hcount hpeer =>
          exact accepted_leaves lawful hlisted hadds hcount hpeer hmember
  · intro c custom hbuilt hcustom hclassical
    exact built_has_path lawful hbuilt hcustom hclassical

end

/-!
## A library

Updates, then removes, then adds on the leftmost empty leaf, then the path.
-/

def replaceLeaf (index : Nat) (leaf : Leaf) (members : List (Nat × Leaf)) :
    List (Nat × Leaf) :=
  members.map fun member => if member.1 = index then (index, leaf) else member

def freeIndex (members : List (Nat × Leaf)) : Nat :=
  ((List.range (members.length + 1)).find? fun index =>
    !(members.map Prod.fst).contains index).getD members.length

def applyUpdate (members : List (Nat × Leaf)) (update : ProposalInfo Leaf) :
    List (Nat × Leaf) :=
  match update.sender with
  | .member index => replaceLeaf index update.proposal members
  | .other => members

def applyRemoves (removes : List (ProposalInfo Nat)) (members : List (Nat × Leaf)) :
    List (Nat × Leaf) :=
  members.filter fun member =>
    !(removes.map ProposalInfo.proposal).contains member.1

def applyAdd (members : List (Nat × Leaf)) (add : ProposalInfo Leaf) :
    List (Nat × Leaf) :=
  members ++ [(freeIndex members, add.proposal)]

def applyPath (source : CommitSource) (path : Option Leaf)
    (members : List (Nat × Leaf)) : List (Nat × Leaf) :=
  match source, path with
  | .existingMember committer, some leaf => replaceLeaf committer leaf members
  | _, _ => members

/-- The library that applies a commit step by step and builds what its rules let
through. -/
def plainLibrary (codec : MlsCodec) : CommitLibrary Leaf where
  apply g c :=
    { g with
      epoch := g.epoch + 1
      members := applyPath c.source c.path
        (c.proposals.adds.foldl applyAdd
          (applyRemoves c.proposals.removes
            (c.proposals.updates.foldl applyUpdate g.members))) }
  builds g c :=
    Accepted codec g c ∧
      ((commitOptions g c.proposals).pathRequired = true -> c.path.isSome = true)

theorem indices_replaceLeaf (index : Nat) (leaf : Leaf) (members : List (Nat × Leaf)) :
    (replaceLeaf index leaf members).map Prod.fst = members.map Prod.fst := by
  unfold replaceLeaf
  rw [List.map_map]
  apply List.map_congr_left
  intro member _
  change (if member.1 = index then (index, leaf) else member).1 = member.1
  split
  next h => exact h.symm
  next => rfl

theorem mem_replaceLeaf {index : Nat} {leaf : Leaf} {members : List (Nat × Leaf)}
    {member : Nat × Leaf} (h : member ∈ replaceLeaf index leaf members) :
    member ∈ members ∨ member = (index, leaf) := by
  rcases List.mem_map.mp h with ⟨old, hold, hnew⟩
  split at hnew
  · exact Or.inr hnew.symm
  · rw [← hnew]
    exact Or.inl hold

theorem indices_applyUpdates (updates : List (ProposalInfo Leaf))
    (members : List (Nat × Leaf)) :
    (updates.foldl applyUpdate members).map Prod.fst = members.map Prod.fst := by
  induction updates generalizing members with
  | nil => rfl
  | cons update rest ih =>
      rw [List.foldl_cons, ih]
      unfold applyUpdate
      cases update.sender with
      | member index => exact indices_replaceLeaf _ _ _
      | other => rfl

theorem mem_applyUpdates {updates : List (ProposalInfo Leaf)}
    {members : List (Nat × Leaf)} {member : Nat × Leaf}
    (h : member ∈ updates.foldl applyUpdate members) :
    member ∈ members ∨ exists update, update ∈ updates ∧
      update.sender = .member member.1 ∧ update.proposal = member.2 := by
  induction updates generalizing members with
  | nil => exact Or.inl h
  | cons update rest ih =>
      rcases ih h with hmem | ⟨update', hmem, hsender, hleaf⟩
      · unfold applyUpdate at hmem
        cases hsender : update.sender with
        | other =>
            rw [hsender] at hmem
            exact Or.inl hmem
        | member index =>
            rw [hsender] at hmem
            rcases mem_replaceLeaf hmem with hold | rfl
            · exact Or.inl hold
            · exact Or.inr ⟨update, List.mem_cons_self, hsender, rfl⟩
      · exact Or.inr ⟨update', List.mem_cons_of_mem _ hmem, hsender, hleaf⟩

theorem indices_applyRemoves (removes : List (ProposalInfo Nat))
    (members : List (Nat × Leaf)) :
    (applyRemoves removes members).map Prod.fst =
      (members.map Prod.fst).filter fun index =>
        !(removes.map ProposalInfo.proposal).contains index := by
  unfold applyRemoves
  rw [List.filter_map]
  rfl

theorem freeIndex_free (members : List (Nat × Leaf)) :
    freeIndex members ∉ members.map Prod.fst := by
  unfold freeIndex
  cases hfind : (List.range (members.length + 1)).find? fun index =>
      !(members.map Prod.fst).contains index with
  | some index =>
      have hfree := List.find?_some hfind
      simpa using hfree
  | none =>
      have hall := List.find?_eq_none.mp hfind
      have hsub : List.range (members.length + 1) ⊆ members.map Prod.fst := by
        intro index hindex
        have htaken := hall index hindex
        simpa using htaken
      have hlength := (List.nodup_range.subperm hsub).length_le
      simp only [List.length_range, List.length_map] at hlength
      omega

theorem indices_applyAdds (adds : List (ProposalInfo Leaf))
    (members : List (Nat × Leaf)) :
    exists joined,
      (adds.foldl applyAdd members).map Prod.fst = members.map Prod.fst ++ joined ∧
        joined.length = adds.length ∧
        forall index, index ∈ joined -> index ∉ members.map Prod.fst := by
  induction adds generalizing members with
  | nil => exact ⟨[], by simp, rfl, fun _ h => absurd h List.not_mem_nil⟩
  | cons add rest ih =>
      rcases ih (applyAdd members add) with ⟨joined, hindices, hlength, hfresh⟩
      have hnext : (applyAdd members add).map Prod.fst =
          members.map Prod.fst ++ [freeIndex members] := by
        unfold applyAdd
        rw [List.map_append]
        rfl
      rw [hnext] at hindices hfresh
      refine ⟨freeIndex members :: joined, ?_, ?_, ?_⟩
      · rw [List.foldl_cons, hindices, List.append_assoc]
        rfl
      · rw [List.length_cons, List.length_cons, hlength]
      · intro index hindex
        rcases List.mem_cons.mp hindex with rfl | hrest
        · exact freeIndex_free members
        · exact fun hold => hfresh index hrest (List.mem_append_left _ hold)

theorem mem_applyAdds {adds : List (ProposalInfo Leaf)} {members : List (Nat × Leaf)}
    {member : Nat × Leaf} (h : member ∈ adds.foldl applyAdd members) :
    member ∈ members ∨ exists add, add ∈ adds ∧ add.proposal = member.2 := by
  induction adds generalizing members with
  | nil => exact Or.inl h
  | cons add rest ih =>
      rcases ih h with hmem | ⟨add', hadd, hleaf⟩
      · rcases List.mem_append.mp hmem with hold | hnew
        · exact Or.inl hold
        · rw [List.mem_singleton.mp hnew]
          exact Or.inr ⟨add, List.mem_cons_self, rfl⟩
      · exact Or.inr ⟨add', List.mem_cons_of_mem _ hadd, hleaf⟩

theorem indices_applyPath (source : CommitSource) (path : Option Leaf)
    (members : List (Nat × Leaf)) :
    (applyPath source path members).map Prod.fst = members.map Prod.fst := by
  unfold applyPath
  split
  · exact indices_replaceLeaf _ _ _
  · rfl

theorem mem_applyPath {committer : Nat} {path : Option Leaf}
    {members : List (Nat × Leaf)} {member : Nat × Leaf}
    (h : member ∈ applyPath (.existingMember committer) path members) :
    member ∈ members ∨ (member.1 = committer ∧ path = some member.2) := by
  cases path with
  | none => exact Or.inl h
  | some leaf =>
      rcases mem_replaceLeaf h with hold | rfl
      · exact Or.inl hold
      · exact Or.inr ⟨rfl, rfl⟩

theorem plainLibrary_lawful (codec : MlsCodec) :
    (plainLibrary codec : CommitLibrary Leaf).Lawful codec where
  suite _ _ := rfl
  epoch _ _ := rfl
  roster g c committer _ := by
    rcases indices_applyAdds c.proposals.adds (applyRemoves c.proposals.removes
      (c.proposals.updates.foldl applyUpdate g.members)) with
      ⟨joined, hindices, hlength, hfresh⟩
    have hkept : (applyRemoves c.proposals.removes
        (c.proposals.updates.foldl applyUpdate g.members)).map Prod.fst =
          keptIndices g c := by
      rw [indices_applyRemoves, indices_applyUpdates]
      rfl
    rw [hkept] at hindices hfresh
    refine ⟨joined, List.Perm.of_eq ?_, hlength, hfresh⟩
    change (applyPath c.source c.path _).map Prod.fst = _
    rw [indices_applyPath, hindices]
  leaves g c committer member hsource hmember := by
    change member ∈ applyPath c.source c.path _ at hmember
    rw [hsource] at hmember
    rcases mem_applyPath hmember with hmember | hpath
    · rcases mem_applyAdds hmember with hmember | hadded
      · rcases mem_applyUpdates (List.mem_filter.mp hmember).1 with hold | hupdated
        · exact Or.inl hold
        · exact Or.inr (Or.inr (Or.inl hupdated))
      · exact Or.inr (Or.inr (Or.inr hadded))
    · exact Or.inr (Or.inl hpath)
  filtered _ _ h := h.1
  path _ _ h := h.2

end

/-!
## A creator, its peer and a FULL commit
-/

/-- The payload structs in the wire format their derives give them. -/
def plainCodec : MlsCodec where
  appDataUpdateWire bytes :=
    match bytes.drop 4 with
    | [] => none
    | op :: rest =>
        (Codec.shortBytes.decode rest).map fun read =>
          ({ componentId := beNat (bytes.take 4)
             op := op.toNat
             update := read.1 }, read.2)
  apqInfoUpdate bytes :=
    if bytes.length < 16 then none
    else
      some
        ({ tEpoch := beNat (bytes.take 8)
           pqEpoch := beNat ((bytes.drop 8).take 8) }, bytes.drop 16)

def loneCreator : RuledGroup Nat :=
  { cipherSuite := 3, epoch := 0, members := [(0, 10)] }

def emptyBundle : ProposalBundle Nat :=
  { adds := [], updates := [], removes := [], psks := [], reInits := []
    externalInits := [], groupContextExts := [], customs := [] }

def creationCommit : GroupCommit Nat :=
  { source := .existingMember 0
    proposals := { emptyBundle with adds := [{ sender := .member 0, proposal := 11 }] }
    path := none }

def createdPair : RuledGroup Nat :=
  (plainLibrary plainCodec).apply loneCreator creationCommit

def attestation : RawCustomProposal :=
  { proposalType := appDataUpdate
    data := beBytes 4 apqComponentId ++ [1, 16] ++ beBytes 8 2 ++ beBytes 8 7 }

def fullCommit : GroupCommit Nat :=
  { source := .existingMember 0
    proposals :=
      { emptyBundle with
        updates := [{ sender := .member 1, proposal := 12 }]
        psks := [{ sender := .member 0, proposal := .application apqComponentId [5] }]
        customs := [{ sender := .member 0, proposal := attestation }] }
    path := some 13 }

theorem creation_accepted : Accepted plainCodec loneCreator creationCommit := by
  unfold Accepted
  rfl

theorem full_built : (plainLibrary plainCodec).builds createdPair fullCommit := by
  constructor
  · unfold Accepted
    rfl
  · exact fun _ => rfl

theorem full_decodes :
    ApqInfoUpdate.fromCustomProposal plainCodec attestation =
      some { tEpoch := 2, pqEpoch := 7 } := by
  decide +kernel

/-- The pair of the creation commit is the one after a FULL commit. -/
theorem full_commit_keeps_two_party :
    History plainCodec (plainLibrary plainCodec) loneCreator createdPair ∧
      ((plainLibrary plainCodec).apply createdPair fullCommit).indices.Perm
        createdPair.indices ∧
      ((plainLibrary plainCodec).apply createdPair fullCommit).members =
        [(0, 13), (1, 12)] ∧
      (exists committer, Whitelisted plainCodec createdPair fullCommit committer) ∧
      fullCommit.path.isSome = true ∧
      ApqInfoUpdate.fromCustomProposal plainCodec attestation =
        some { tEpoch := 2, pqEpoch := 7 } := by
  have hrun : History plainCodec (plainLibrary plainCodec) loneCreator createdPair :=
    Run.refl.step creation_accepted
  have hresult := accepted_histories_two_party (plainLibrary_lawful plainCodec)
    (show loneCreator.members.length = 1 from rfl) hrun
  refine ⟨hrun, ?_, rfl, ?_, ?_, full_decodes⟩
  · exact (hresult.2.1 _ rfl (Run.refl.step full_built.1)).1
  · rcases (hresult.2.2.1 _ full_built.1).2 with ⟨committer, hlisted, _⟩
    exact ⟨committer, hlisted⟩
  · exact hresult.2.2.2 fullCommit _ full_built List.mem_cons_self rfl

end Apq
end TwoMlsPq
