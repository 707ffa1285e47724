import TwoMlsPq.Apq.Group
import TwoMlsPq.Foundation.ByteVector
import TwoMlsPq.Foundation.Ordered

/-!
# The bytes of an invitation

An invitation is archived as a record of MLS fields, one of which is the invitation
itself as a blob of its own: a version byte, the suite pair and its fields.  The two
blobs have a decoder each.  The outer one takes nothing behind its fields; the inner one
does not look.
-/

namespace TwoMlsPq
namespace Session
namespace ArchiveBytes

open Foundation Apq

/-!
## The suite on the wire
-/

def toWire (suite : ApqCipherSuite) : Bytes :=
  beBytes 2 suite.classical ++ beBytes 2 suite.pq

def fromWire (s0 s1 s2 s3 : UInt8) : ApqCipherSuite :=
  { classical := beNat [s0, s1], pq := beNat [s2, s3] }

theorem toWire_fromWire (s0 s1 s2 s3 : UInt8) :
    toWire (fromWire s0 s1 s2 s3) = [s0, s1, s2, s3] := by
  have hclassical : beBytes 2 (beNat [s0, s1]) = [s0, s1] := beBytes_beNat [s0, s1]
  have hpq : beBytes 2 (beNat [s2, s3]) = [s2, s3] := beBytes_beNat [s2, s3]
  unfold toWire fromWire
  dsimp only
  rw [hclassical, hpq]
  rfl

/-!
## The persisted state
-/

abbrev ByteSet : Type :=
  Ordered (id : Bytes -> Bytes)

abbrev ByteMap : Type :=
  Ordered (Prod.fst : Bytes × Bytes -> Bytes)

section

variable (K : Type)

abbrev KeyPackageSecret : Type :=
  Bytes × K

structure CombinerInvitation where
  clientId : Bytes
  classicalSigningKey : Bytes
  pqSigningKey : Bytes
  classicalPublic : Bytes
  pqPublic : Bytes
  lastResort : Bool
  classicalKpd : Option (KeyPackageSecret K)
  pqKpd : Option (KeyPackageSecret K)
deriving DecidableEq

structure InvitationArchive where
  stateSeq : UInt64
  invitation : Bytes
  consumed : List Bytes
  spawned : List (Bytes × Bytes)
  processed : List (Bytes × Bytes)
  bootstrapCommitments : List (Bytes × Bytes)
deriving DecidableEq

structure DecodedArchive where
  invitation : CombinerInvitation K
  consumed : ByteSet
  spawned : ByteMap
  processed : ByteMap
  bootstrapCommitments : ByteMap
  stateSeq : UInt64

/-- The library's encoders of single fields: byte strings, integers, flags, the mark in
front of an optional value, and a private key package. -/
structure FieldCodecs where
  bytes : Codec Bytes
  u64 : Codec UInt64
  bool : Codec Bool
  mark : Codec Bool
  keyPackageData : Codec K

end

section

variable {K : Type}

structure FieldCodecs.Canonical (F : FieldCodecs K) : Prop where
  bytes : F.bytes.Canonical
  u64 : F.u64.Canonical
  bool : F.bool.Canonical
  mark : F.mark.Canonical
  keyPackageData : F.keyPackageData.Canonical
  filling : F.bytes.Filling

variable (F : FieldCodecs K)

def secretCodec : Codec (Option (KeyPackageSecret K)) :=
  F.mark.optional (F.bytes.both F.keyPackageData)

def invitationCodec : Codec (CombinerInvitation K) :=
  (F.bytes.both (F.bytes.both (F.bytes.both (F.bytes.both (F.bytes.both
    (F.bool.both ((secretCodec F).both (secretCodec F)))))))).along
    (fun inv =>
      (inv.clientId, inv.classicalSigningKey, inv.pqSigningKey, inv.classicalPublic,
        inv.pqPublic, inv.lastResort, inv.classicalKpd, inv.pqKpd))
    fun (clientId, classicalSigningKey, pqSigningKey, classicalPublic, pqPublic,
        lastResort, classicalKpd, pqKpd) =>
      { clientId := clientId
        classicalSigningKey := classicalSigningKey
        pqSigningKey := pqSigningKey
        classicalPublic := classicalPublic
        pqPublic := pqPublic
        lastResort := lastResort
        classicalKpd := classicalKpd
        pqKpd := pqKpd }

def entriesCodec : Codec (List (Bytes × Bytes)) :=
  F.bytes.vector (F.bytes.both F.bytes)

def archiveCodec : Codec InvitationArchive :=
  (F.u64.both (F.bytes.both ((F.bytes.vector F.bytes).both ((entriesCodec F).both
    ((entriesCodec F).both (entriesCodec F)))))).along
    (fun archive =>
      (archive.stateSeq, archive.invitation, archive.consumed, archive.spawned,
        archive.processed, archive.bootstrapCommitments))
    fun (stateSeq, invitation, consumed, spawned, processed, bootstrapCommitments) =>
      { stateSeq := stateSeq
        invitation := invitation
        consumed := consumed
        spawned := spawned
        processed := processed
        bootstrapCommitments := bootstrapCommitments }

def invitationVersion : UInt8 :=
  2

def header : Bytes :=
  invitationVersion :: toWire ApqCipherSuite.declared

def CombinerInvitation.encode (inv : CombinerInvitation K) : Result Bytes :=
  match (invitationCodec F).encode inv with
  | some fields => .ok (header ++ fields)
  | none => .error .archiveInvalid

/-- What follows the fields is not looked at. -/
def CombinerInvitation.decode : Bytes -> Result (CombinerInvitation K)
  | version :: s0 :: s1 :: s2 :: s3 :: rest =>
      if version = invitationVersion ∧ fromWire s0 s1 s2 s3 = ApqCipherSuite.declared then
        match (invitationCodec F).decode rest with
        | some (inv, _) => .ok inv
        | none => .error .archiveInvalid
      else .error .archiveInvalid
  | _ => .error .archiveInvalid

def encodeArchive (state : DecodedArchive K) : Result Bytes := do
  let invitation <- CombinerInvitation.encode F state.invitation
  match (archiveCodec F).encode
    { stateSeq := state.stateSeq
      invitation := invitation
      consumed := state.consumed.entries
      spawned := state.spawned.entries
      processed := state.processed.entries
      bootstrapCommitments := state.bootstrapCommitments.entries } with
  | some bytes => .ok bytes
  | none => .error .archiveInvalid

def decodeArchive (bytes : Bytes) : Result (DecodedArchive K) :=
  match (archiveCodec F).decode bytes with
  | none => .error .archiveInvalid
  | some (archive, rest) =>
      if rest ≠ [] then .error .archiveInvalid
      else do
        let invitation <- CombinerInvitation.decode F archive.invitation
        .ok
          { invitation := invitation
            consumed := Ordered.collect archive.consumed
            spawned := Ordered.collect archive.spawned
            processed := Ordered.collect archive.processed
            bootstrapCommitments := Ordered.collect archive.bootstrapCommitments
            stateSeq := archive.stateSeq }

/-!
## What the decoders take
-/

/-- The three tables and the set list their keys in order, each once. -/
structure InvitationArchive.TablesAscend (archive : InvitationArchive) : Prop where
  consumed : AscendingBy id archive.consumed
  spawned : AscendingBy Prod.fst archive.spawned
  processed : AscendingBy Prod.fst archive.processed
  bootstrapCommitments : AscendingBy Prod.fst archive.bootstrapCommitments

def EndsWithFields (invitation : Bytes) : Prop :=
  exists inv, (invitationCodec F).decode (invitation.drop header.length) = some (inv, [])

theorem header_eq : header = [2, 0x00, 0x03, 0xFD, 0xEA] := by
  decide

variable {F} (hF : F.Canonical)

include hF

theorem canonical_invitationCodec : (invitationCodec F).Canonical := by
  have hsecret : (secretCodec F).Canonical :=
    hF.mark.optional (hF.bytes.both hF.keyPackageData)
  have hfields := hF.bytes.both (hF.bytes.both (hF.bytes.both (hF.bytes.both
    (hF.bytes.both (hF.bool.both (hsecret.both hsecret))))))
  exact hfields.along (fun _ => rfl) fun _ => rfl

theorem canonical_archiveCodec : (archiveCodec F).Canonical := by
  have hentry : (F.bytes.both F.bytes).Canonical := hF.bytes.both hF.bytes
  have hentries : (entriesCodec F).Canonical :=
    hF.bytes.vector hentry hF.filling.both
  have hconsumed := hF.bytes.vector hF.bytes hF.filling
  have hfields := hF.u64.both (hF.bytes.both (hconsumed.both (hentries.both
    (hentries.both hentries))))
  exact hfields.along (fun _ => rfl) fun _ => rfl

theorem invitation_decode {bytes : Bytes} {inv : CombinerInvitation K} :
    CombinerInvitation.decode F bytes = .ok inv <->
      exists fields extra, (invitationCodec F).encode inv = some fields ∧
        bytes = header ++ (fields ++ extra) := by
  have hcanonical := canonical_invitationCodec hF
  constructor
  · intro h
    unfold CombinerInvitation.decode at h
    split at h
    next version s0 s1 s2 s3 rest =>
      split at h
      next hheader =>
        split at h
        next inv' extra hdecoded =>
          cases h
          rcases hcanonical.exact rest inv extra hdecoded with ⟨fields, hfields, rfl⟩
          refine ⟨fields, extra, hfields, ?_⟩
          have hwire := toWire_fromWire s0 s1 s2 s3
          rw [hheader.2] at hwire
          unfold header
          rw [hwire, hheader.1]
          rfl
        next => cases h
      next => cases h
    next => cases h
  · rintro ⟨fields, extra, hfields, rfl⟩
    have hdecoded := hcanonical.decodes inv fields extra hfields
    have hheader : fromWire 0x00 0x03 0xFD 0xEA = ApqCipherSuite.declared := by decide
    rw [header_eq]
    unfold CombinerInvitation.decode
    simp only [List.cons_append, List.nil_append]
    rw [if_pos ⟨rfl, hheader⟩, hdecoded]

theorem endsWithFields_iff {inv : CombinerInvitation K} {fields extra : Bytes}
    (hfields : (invitationCodec F).encode inv = some fields) :
    EndsWithFields F (header ++ (fields ++ extra)) <-> extra = [] := by
  have hdecoded := (canonical_invitationCodec hF).decodes inv fields extra hfields
  unfold EndsWithFields
  rw [List.drop_left]
  constructor
  · rintro ⟨inv', h⟩
    rw [hdecoded] at h
    cases h
    rfl
  · rintro rfl
    exact ⟨inv, hdecoded⟩

omit hF in
theorem encodeArchive_ok {state : DecodedArchive K} {bytes : Bytes} :
    encodeArchive F state = .ok bytes <->
      exists fields, (invitationCodec F).encode state.invitation = some fields ∧
        (archiveCodec F).encode
          { stateSeq := state.stateSeq
            invitation := header ++ fields
            consumed := state.consumed.entries
            spawned := state.spawned.entries
            processed := state.processed.entries
            bootstrapCommitments := state.bootstrapCommitments.entries } =
          some bytes := by
  unfold encodeArchive CombinerInvitation.encode
  cases hfields : (invitationCodec F).encode state.invitation with
  | none => simp [bind, Except.bind]
  | some fields =>
      simp only [bind, Except.bind, Option.some.injEq, exists_eq_left']
      split
      next out hout =>
        rw [hout]
        simp
      next hout =>
        rw [hout]
        simp

omit hF in
theorem decodeArchive_ok {state : DecodedArchive K} {bytes : Bytes} :
    decodeArchive F bytes = .ok state <->
      exists archive inv, (archiveCodec F).decode bytes = some (archive, []) ∧
        CombinerInvitation.decode F archive.invitation = .ok inv ∧
        state =
          { invitation := inv
            consumed := Ordered.collect archive.consumed
            spawned := Ordered.collect archive.spawned
            processed := Ordered.collect archive.processed
            bootstrapCommitments := Ordered.collect archive.bootstrapCommitments
            stateSeq := archive.stateSeq } := by
  unfold decodeArchive
  cases hdecoded : (archiveCodec F).decode bytes with
  | none => simp
  | some p =>
      rcases p with ⟨archive, rest⟩
      dsimp only
      by_cases hrest : rest = []
      · subst hrest
        rw [if_neg (by simp)]
        cases hinv : CombinerInvitation.decode F archive.invitation with
        | error e => simp [bind, Except.bind, hinv]
        | ok inv =>
            simp only [bind, Except.bind, Except.ok.injEq]
            constructor
            · rintro rfl
              exact ⟨archive, inv, rfl, hinv, rfl⟩
            · rintro ⟨archive', inv', harchive, hinv', rfl⟩
              cases harchive
              rw [hinv] at hinv'
              cases hinv'
              rfl
      · rw [if_pos hrest]
        constructor
        · intro h
          cases h
        · rintro ⟨archive', inv', harchive, _⟩
          cases harchive
          exact absurd rfl hrest

/-- Every archive is read back as the state it was written from, and an archive that is
read is the one its state is written as exactly where its embedded invitation ends with
the last field. -/
theorem archive_reencodes_without_extra :
    (forall state bytes, encodeArchive F state = .ok bytes ->
      decodeArchive F bytes = .ok state) ∧
      forall bytes state archive, decodeArchive F bytes = .ok state ->
        (archiveCodec F).decode bytes = some (archive, []) -> archive.TablesAscend ->
          (encodeArchive F state = .ok bytes <-> EndsWithFields F archive.invitation) := by
  have hcanonical := canonical_archiveCodec hF
  constructor
  · intro state bytes h
    rcases encodeArchive_ok.mp h with ⟨fields, hfields, harchive⟩
    refine decodeArchive_ok.mpr ⟨_, state.invitation, hcanonical.whole.mpr harchive,
      ?_, ?_⟩
    · refine (invitation_decode hF).mpr ⟨fields, [], hfields, ?_⟩
      rw [List.append_nil]
    · dsimp only
      rw [Ordered.collect_entries, Ordered.collect_entries, Ordered.collect_entries,
        Ordered.collect_entries]
  · intro bytes state archive hstate harchive hascend
    rcases decodeArchive_ok.mp hstate with ⟨archive', inv, harchive', hinv, rfl⟩
    rw [harchive] at harchive'
    cases harchive'
    rcases (invitation_decode hF).mp hinv with ⟨fields, extra, hfields, hinvitation⟩
    have hbytes := hcanonical.whole.mp harchive
    rw [hinvitation, endsWithFields_iff hF hfields, encodeArchive_ok]
    dsimp only
    rw [Ordered.collect_ascending hascend.consumed,
      Ordered.collect_ascending hascend.spawned,
      Ordered.collect_ascending hascend.processed,
      Ordered.collect_ascending hascend.bootstrapCommitments]
    constructor
    · rintro ⟨fields', hfields', hencoded⟩
      rw [hfields] at hfields'
      cases hfields'
      have hsame := (hcanonical.whole.mpr hencoded).symm.trans harchive
      have hblob := congrArg (fun p => p.map fun q => q.1.invitation) hsame
      simp only [Option.map_some, Option.some.injEq] at hblob
      rw [hinvitation, List.append_cancel_left_eq] at hblob
      exact List.self_eq_append_right.mp hblob
    · rintro rfl
      refine ⟨fields, hfields, ?_⟩
      rw [List.append_nil] at hinvitation
      rw [← hinvitation]
      exact hbytes

end

/-!
## Short archives
-/

def shortCodecs : FieldCodecs Bytes :=
  { bytes := Codec.shortBytes
    u64 := Codec.u64
    bool := Codec.flag
    mark := Codec.flag
    keyPackageData := Codec.shortBytes }

theorem shortCodecs_canonical : shortCodecs.Canonical :=
  { bytes := Codec.canonical_shortBytes
    u64 := Codec.canonical_u64
    bool := Codec.canonical_flag
    mark := Codec.canonical_flag
    keyPackageData := Codec.canonical_shortBytes
    filling := Codec.filling_shortBytes }

def sampleInvitation : CombinerInvitation Bytes :=
  { clientId := [0xA0]
    classicalSigningKey := [1]
    pqSigningKey := [2]
    classicalPublic := [3]
    pqPublic := [4]
    lastResort := true
    classicalKpd := some ([5], [6])
    pqKpd := none }

def sampleFields : Bytes :=
  [1, 0xA0, 1, 1, 1, 2, 1, 3, 1, 4, 1, 1, 1, 5, 1, 6, 0]

def sampleArchive (extra : Bytes) : InvitationArchive :=
  { stateSeq := 7
    invitation := header ++ (sampleFields ++ extra)
    consumed := [[1], [2]]
    spawned := [([1], [9])]
    processed := []
    bootstrapCommitments := [([3], [9]), ([4], [9])] }

def sampleBytes (extra : Bytes) : Bytes :=
  ((archiveCodec shortCodecs).encode (sampleArchive extra)).getD []

def sampleState : DecodedArchive Bytes :=
  { invitation := sampleInvitation
    consumed := Ordered.collect [[1], [2]]
    spawned := Ordered.collect [([1], [9])]
    processed := Ordered.collect []
    bootstrapCommitments := Ordered.collect [([3], [9]), ([4], [9])]
    stateSeq := 7 }

theorem sampleArchive_ascends (extra : Bytes) : (sampleArchive extra).TablesAscend := by
  unfold sampleArchive
  constructor
  · show List.Pairwise (fun a b : Bytes => a < b) [[1], [2]]
    decide
  · show List.Pairwise (fun a b : Bytes × Bytes => a.1 < b.1) [([1], [9])]
    decide
  · exact List.Pairwise.nil
  · show List.Pairwise (fun a b : Bytes × Bytes => a.1 < b.1) [([3], [9]), ([4], [9])]
    decide

theorem sampleBytes_decode (extra : Bytes) (hshort : extra = [] ∨ extra = [0]) :
    (archiveCodec shortCodecs).decode (sampleBytes extra) =
        some (sampleArchive extra, []) ∧
      decodeArchive shortCodecs (sampleBytes extra) = .ok sampleState := by
  rcases hshort with rfl | rfl
  · exact ⟨rfl, rfl⟩
  · exact ⟨rfl, rfl⟩

theorem sample_reencodes :
    encodeArchive shortCodecs sampleState = .ok (sampleBytes []) := by
  rcases sampleBytes_decode [] (Or.inl rfl) with ⟨harchive, hstate⟩
  apply ((archive_reencodes_without_extra shortCodecs_canonical).2 (sampleBytes [])
    sampleState (sampleArchive []) hstate harchive (sampleArchive_ascends [])).mpr
  exact ⟨sampleInvitation, rfl⟩

/-- One zero byte behind the embedded invitation's fields is accepted and lost. -/
theorem extra_byte_is_lost :
    ¬ forall (bytes : Bytes) (state : DecodedArchive Bytes) (archive : InvitationArchive),
      decodeArchive shortCodecs bytes = .ok state ->
        (archiveCodec shortCodecs).decode bytes = some (archive, []) ->
          archive.TablesAscend -> encodeArchive shortCodecs state = .ok bytes := by
  intro hall
  rcases sampleBytes_decode [0] (Or.inr rfl) with ⟨harchive, hstate⟩
  have hencoded := hall (sampleBytes [0]) sampleState (sampleArchive [0]) hstate harchive
    (sampleArchive_ascends [0])
  revert hencoded
  decide

end ArchiveBytes
end Session
end TwoMlsPq
