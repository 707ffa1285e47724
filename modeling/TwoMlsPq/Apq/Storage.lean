import Mathlib.Data.List.Nodup
import TwoMlsPq.Apq.Group
import TwoMlsPq.Foundation.ByteVector
import TwoMlsPq.Foundation.KeyedLog

/-!
# The group-state storage

Every group has one record: its state and the epochs it still needs to open late
messages.  A write replaces the state, adds epochs, updates the ones it finds and trims
the oldest.  A record leaves the storage as one versioned blob and comes back through a
decoder that checks what writes maintain.
-/

namespace TwoMlsPq
namespace Apq

open Foundation

def epochRetention : Nat :=
  3

def storageFormatVersion : UInt8 :=
  1

abbrev EpochRecord : Type :=
  UInt64 × Bytes

structure GroupRecord where
  state : Bytes
  epochs : List EpochRecord
deriving DecidableEq, Repr

namespace GroupRecord

def fresh : GroupRecord :=
  { state := [], epochs := [] }

end GroupRecord

structure StorageWrite where
  group : Bytes
  state : Bytes
  inserts : List EpochRecord
  updates : List EpochRecord

def StorageWrite.events (w : StorageWrite) : List (LogEvent UInt64 Bytes) :=
  (w.inserts.map fun e => .insert e.1 e.2) ++ w.updates.map fun e => .update e.1 e.2

abbrev PersistableGroupStorage : Type :=
  Bytes -> Option GroupRecord

namespace PersistableGroupStorage

def new : PersistableGroupStorage :=
  fun _ => none

def epochs (s : PersistableGroupStorage) (group : Bytes) : List EpochRecord :=
  ((s group).map GroupRecord.epochs).getD []

def writeEpochs (kept inserts updates : List EpochRecord) : List EpochRecord :=
  newest epochRetention
    (updates.foldl (fun log e => overwrite log e.1 e.2) (kept ++ inserts))

def write (s : PersistableGroupStorage) (w : StorageWrite) : PersistableGroupStorage :=
  let record := (s w.group).getD GroupRecord.fresh
  Function.update s w.group
    (some { state := w.state, epochs := writeEpochs record.epochs w.inserts w.updates })

def epoch (s : PersistableGroupStorage) (group : Bytes) (id : UInt64) : Option Bytes :=
  (s group).bind fun record => (record.epochs.find? fun e => e.1 == id).map Prod.snd

def maxEpochId (s : PersistableGroupStorage) (group : Bytes) : Option UInt64 :=
  (s group).bind fun record => record.epochs.getLast?.map Prod.fst

def writes (script : List StorageWrite) : PersistableGroupStorage :=
  script.foldl write new

/-!
## What a group was given
-/

def inserted (script : List StorageWrite) (group : Bytes) : List EpochRecord :=
  (script.filter fun w => w.group == group).flatMap StorageWrite.inserts

def history (script : List StorageWrite) (group : Bytes) :
    List (LogEvent UInt64 Bytes) :=
  (script.filter fun w => w.group == group).flatMap StorageWrite.events

def Ascending (epochs : List EpochRecord) : Prop :=
  epochs.Pairwise fun e e' => e.1 < e'.1

theorem inserted_append (script : List StorageWrite) (w : StorageWrite) (group : Bytes) :
    inserted (script ++ [w]) group =
      inserted script group ++ if w.group = group then w.inserts else [] := by
  unfold inserted
  by_cases h : w.group = group
  · simp [List.filter_append, h]
  · simp [List.filter_append, h]

theorem history_append (script : List StorageWrite) (w : StorageWrite) (group : Bytes) :
    history (script ++ [w]) group =
      history script group ++ if w.group = group then w.events else [] := by
  unfold history
  by_cases h : w.group = group
  · simp [List.filter_append, h]
  · simp [List.filter_append, h]

theorem writes_append (script : List StorageWrite) (w : StorageWrite) :
    writes (script ++ [w]) = (writes script).write w := by
  unfold writes
  rw [List.foldl_append]
  rfl

theorem epochs_write_same (s : PersistableGroupStorage) (w : StorageWrite) :
    (s.write w).epochs w.group = writeEpochs (s.epochs w.group) w.inserts w.updates := by
  unfold PersistableGroupStorage.epochs PersistableGroupStorage.write
  rw [Function.update_self]
  cases s w.group with
  | none => rfl
  | some record => rfl

theorem write_other (s : PersistableGroupStorage) {w : StorageWrite} {group : Bytes}
    (h : w.group ≠ group) :
    s.write w group = s group :=
  Function.update_of_ne (fun heq => h heq.symm) _ _

theorem Ascending.ids_nodup {epochs : List EpochRecord} (h : Ascending epochs) :
    (epochs.map Prod.fst).Nodup := by
  unfold List.Nodup
  rw [List.pairwise_map]
  refine h.imp fun hlt heq => ?_
  rw [heq] at hlt
  exact UInt64.lt_irrefl _ hlt

/-- The epochs a record holds are the newest ones inserted, with their latest data. -/
structure Retains (script : List StorageWrite) (group : Bytes)
    (kept : List EpochRecord) : Prop where
  ids : kept.map Prod.fst =
    newest epochRetention ((inserted script group).map Prod.fst)
  logs : Logs (history script group) kept

theorem Retains.write {script : List StorageWrite} {w : StorageWrite}
    {kept : List EpochRecord} (h : Retains script w.group kept)
    (hascending : Ascending (inserted (script ++ [w]) w.group)) :
    Retains (script ++ [w]) w.group (writeEpochs kept w.inserts w.updates) := by
  have hinserted : inserted (script ++ [w]) w.group =
      inserted script w.group ++ w.inserts := by
    rw [inserted_append, if_pos rfl]
  have hhistory : history (script ++ [w]) w.group =
      history script w.group ++ w.events := by
    rw [history_append, if_pos rfl]
  have hids : (kept ++ w.inserts).map Prod.fst =
      newest epochRetention ((inserted script w.group).map Prod.fst) ++
        w.inserts.map Prod.fst := by
    rw [List.map_append, h.ids]
  have hdistinct : ((kept ++ w.inserts).map Prod.fst).Nodup := by
    have hall := hascending.ids_nodup
    rw [hinserted, List.map_append] at hall
    rw [hids]
    exact hall.sublist ((newest_sublist _ _).append (List.Sublist.refl _))
  unfold writeEpochs
  constructor
  · rw [map_newest, updates_keys, hids, newest_append, hinserted, List.map_append]
  · rw [hhistory]
    unfold StorageWrite.events
    rw [← List.append_assoc]
    exact ((h.logs.inserts hdistinct).updates w.updates).forget (newest_sublist _ _)

theorem retains_writes (script : List StorageWrite) (group : Bytes)
    (hascending : Ascending (inserted script group)) :
    Retains script group ((writes script).epochs group) := by
  induction script using List.reverseRecOn with
  | nil => exact { ids := rfl, logs := Logs.nothing }
  | append_singleton script w ih =>
      have hbefore : Ascending (inserted script group) := by
        rw [inserted_append] at hascending
        exact hascending.sublist (List.sublist_append_left _ _)
      have hkept := ih hbefore
      rw [writes_append]
      by_cases h : w.group = group
      · subst h
        rw [epochs_write_same]
        exact hkept.write hascending
      · have hsame : ((writes script).write w).epochs group =
            (writes script).epochs group := by
          unfold PersistableGroupStorage.epochs
          rw [write_other _ h]
        rw [hsame]
        constructor
        · rw [inserted_append, if_neg h, List.append_nil]
          exact hkept.ids
        · rw [history_append, if_neg h, List.append_nil]
          exact hkept.logs

theorem Retains.ascending {script : List StorageWrite} {group : Bytes}
    {kept : List EpochRecord} (h : Retains script group kept)
    (hascending : Ascending (inserted script group)) :
    Ascending kept := by
  have hids : ((inserted script group).map Prod.fst).Pairwise fun i j => i < j :=
    List.pairwise_map.mpr hascending
  have hkept := hids.sublist (newest_sublist epochRetention _)
  rw [← h.ids] at hkept
  exact List.pairwise_map.mp hkept

theorem maxEpochId_eq (s : PersistableGroupStorage) (group : Bytes) :
    s.maxEpochId group = ((s.epochs group).map Prod.fst).getLast? := by
  unfold PersistableGroupStorage.maxEpochId PersistableGroupStorage.epochs
  cases s group with
  | none => rfl
  | some record => simp

theorem maxEpochId_writes {script : List StorageWrite} {group : Bytes}
    (hascending : Ascending (inserted script group)) :
    (writes script).maxEpochId group =
      ((inserted script group).map Prod.fst).getLast? := by
  rw [maxEpochId_eq, (retains_writes script group hascending).ids]
  exact newest_getLast (by decide) _

theorem le_last {epochs : List EpochRecord} (h : Ascending epochs) {e : EpochRecord}
    (he : e ∈ epochs) {last : UInt64}
    (hlast : (epochs.map Prod.fst).getLast? = some last) :
    e.1 <= last := by
  cases epochs using List.reverseRecOn with
  | nil => cases he
  | append_singleton before final =>
      rw [List.map_append, List.map_singleton, List.getLast?_append] at hlast
      cases hlast
      rcases List.mem_append.mp he with hbefore | hfinal
      · have hlt := (List.pairwise_append.mp h).2.2 e hbefore final List.mem_cons_self
        exact UInt64.le_of_lt hlt
      · rw [List.mem_singleton.mp hfinal]
        exact UInt64.le_refl _

/-- A read finds the newest epochs only, with what was last written to them. -/
theorem epoch_writes {script : List StorageWrite} {group : Bytes}
    (hascending : Ascending (inserted script group)) (id : UInt64) :
    (writes script).epoch group id =
      if id ∈ newest epochRetention ((inserted script group).map Prod.fst) then
        latest (history script group) id
      else none := by
  have hkept := retains_writes script group hascending
  have hread : (writes script).epoch group id =
      (((writes script).epochs group).find? fun e => e.1 == id).map Prod.snd := by
    unfold PersistableGroupStorage.epoch PersistableGroupStorage.epochs
    cases writes script group with
    | none => rfl
    | some record => rfl
  rw [hread, ← hkept.ids]
  cases hfound : ((writes script).epochs group).find? fun e => e.1 == id with
  | none =>
      have hnone : id ∉ ((writes script).epochs group).map Prod.fst := by
        intro hmem
        rcases List.mem_map.mp hmem with ⟨e, he, rfl⟩
        have hnot := List.find?_eq_none.mp hfound e he
        exact hnot (beq_self_eq_true e.1)
      rw [if_neg hnone]
      rfl
  | some e =>
      have he := List.mem_of_find?_eq_some hfound
      have hid : e.1 = id := by
        have hbeq := List.find?_some hfound
        exact eq_of_beq hbeq
      subst hid
      rw [if_pos (List.mem_map_of_mem he), hkept.logs.values e he]
      rfl

/-!
## A record on its way out and back
-/

structure FieldCodecs where
  bytes : Codec Bytes
  u64 : Codec UInt64

structure FieldCodecs.Canonical (F : FieldCodecs) : Prop where
  bytes : F.bytes.Canonical
  u64 : F.u64.Canonical
  filling : F.u64.Filling

structure GroupEntry where
  id : Bytes
  state : Bytes
  epochs : List EpochRecord

def epochEntryCodec (F : FieldCodecs) : Codec EpochRecord :=
  F.u64.both F.bytes

def groupEntryCodec (F : FieldCodecs) : Codec GroupEntry :=
  (F.bytes.both (F.bytes.both (F.bytes.vector (epochEntryCodec F)))).along
    (fun entry => (entry.id, entry.state, entry.epochs))
    fun fields => { id := fields.1, state := fields.2.1, epochs := fields.2.2 }

def ascends (epochs : List EpochRecord) : Bool :=
  (epochs.zip epochs.tail).all fun w => decide (w.1.1 < w.2.1)

def encodeRecord (F : FieldCodecs) (group : Bytes) (record : GroupRecord) :
    Option Bytes :=
  ((groupEntryCodec F).encode
    { id := group, state := record.state, epochs := record.epochs }).map fun out =>
      storageFormatVersion :: out

def exportGroup (F : FieldCodecs) (s : PersistableGroupStorage) (group : Bytes) :
    Except TwoMlsPqError Bytes :=
  match s group with
  | none => .error .archiveInvalid
  | some record =>
      match encodeRecord F group record with
      | some out => .ok out
      | none => .error .archiveInvalid

def importGroup (F : FieldCodecs) (s : PersistableGroupStorage) (bytes : Bytes) :
    Except TwoMlsPqError Bytes × PersistableGroupStorage :=
  match bytes with
  | [] => (.error .archiveInvalid, s)
  | version :: reader =>
      if version ≠ storageFormatVersion then (.error .archiveInvalid, s)
      else
        match (groupEntryCodec F).decode reader with
        | none => (.error .archiveInvalid, s)
        | some (entry, rest) =>
            if rest ≠ [] then (.error .archiveInvalid, s)
            else if ¬ ascends entry.epochs ∨ epochRetention < entry.epochs.length then
              (.error .archiveInvalid, s)
            else
              (.ok entry.id,
                Function.update s entry.id
                  (some { state := entry.state, epochs := entry.epochs }))

end PersistableGroupStorage

structure GroupRecord.WellFormed (record : GroupRecord) : Prop where
  ascending : PersistableGroupStorage.Ascending record.epochs
  bounded : record.epochs.length <= epochRetention

namespace PersistableGroupStorage

theorem ascends_iff (epochs : List EpochRecord) :
    ascends epochs = true <-> Ascending epochs := by
  induction epochs with
  | nil => simp [ascends, Ascending]
  | cons e rest ih =>
      cases rest with
      | nil => simp [ascends, Ascending]
      | cons e' rest =>
          have hhead : ascends (e :: e' :: rest) =
              (decide (e.1 < e'.1) && ascends (e' :: rest)) := by
            simp [ascends]
          rw [hhead, Bool.and_eq_true, ih]
          unfold Ascending
          rw [List.pairwise_cons (l := e' :: rest)]
          constructor
          · rintro ⟨hlt, hrest⟩
            refine ⟨fun x hx => ?_, hrest⟩
            have hfirst := of_decide_eq_true hlt
            rcases List.mem_cons.mp hx with rfl | hx
            · exact hfirst
            · exact UInt64.lt_trans hfirst ((List.pairwise_cons.mp hrest).1 x hx)
          · rintro ⟨hall, hrest⟩
            exact ⟨decide_eq_true (hall e' List.mem_cons_self), hrest⟩

variable {F : FieldCodecs} (hF : F.Canonical)

include hF

theorem canonical_groupEntry : (groupEntryCodec F).Canonical := by
  have hepoch : (epochEntryCodec F).Canonical := hF.u64.both hF.bytes
  have hfilling : (epochEntryCodec F).Filling := hF.filling.both
  have hfields := hF.bytes.both (hF.bytes.both (hF.bytes.vector hepoch hfilling))
  exact hfields.along (fun _ => rfl) fun _ => rfl

/-- An import takes exactly the encodings of well-formed records. -/
theorem importGroup_ok {s s' : PersistableGroupStorage} {bytes group : Bytes} :
    importGroup F s bytes = (.ok group, s') <->
      exists record : GroupRecord, record.WellFormed ∧
        encodeRecord F group record = some bytes ∧
        s' = Function.update s group (some record) := by
  have hcanonical := canonical_groupEntry hF
  constructor
  · intro h
    unfold importGroup at h
    split at h
    · cases h
    next version reader =>
      split at h
      · cases h
      next hversion =>
        split at h
        · cases h
        next entry rest hdecoded =>
          split at h
          · cases h
          next hrest =>
            split at h
            · cases h
            next hchecked =>
              have hempty : rest = [] := Classical.not_not.mp hrest
              rw [hempty] at hdecoded
              rcases not_or.mp hchecked with ⟨hascends, hfew⟩
              cases h
              refine ⟨{ state := entry.state, epochs := entry.epochs },
                ⟨(ascends_iff _).mp (Classical.not_not.mp hascends),
                  Nat.le_of_not_lt hfew⟩, ?_, rfl⟩
              unfold encodeRecord
              rw [Option.map_eq_some_iff]
              refine ⟨reader, hcanonical.whole.mp hdecoded, ?_⟩
              rw [Classical.not_not.mp hversion]
  · rintro ⟨record, ⟨hascending, hbounded⟩, hencoded, rfl⟩
    unfold encodeRecord at hencoded
    rcases Option.map_eq_some_iff.mp hencoded with ⟨reader, hreader, rfl⟩
    have hdecoded := hcanonical.whole.mpr hreader
    have hchecked : ¬ (¬ ascends record.epochs = true ∨
        epochRetention < record.epochs.length) := by
      rintro (hnot | hmany)
      · exact hnot ((ascends_iff _).mpr hascending)
      · exact Nat.not_lt_of_le hbounded hmany
    unfold importGroup
    dsimp only
    rw [if_neg (by simp), hdecoded]
    dsimp only
    rw [if_neg (by simp), if_neg hchecked]

omit hF in
theorem importGroup_error {s : PersistableGroupStorage} {bytes : Bytes}
    {e : TwoMlsPqError} (h : (importGroup F s bytes).1 = .error e) :
    (importGroup F s bytes).2 = s := by
  unfold importGroup at h ⊢
  split
  · rfl
  next version reader =>
    dsimp only at h
    split
    · rfl
    next hversion =>
      rw [if_neg hversion] at h
      split
      · rfl
      next entry rest hdecoded =>
        rw [hdecoded] at h
        dsimp only at h
        split
        · rfl
        next hrest =>
          rw [if_neg hrest] at h
          split
          · rfl
          next hchecked =>
            rw [if_neg hchecked] at h
            cases h

omit hF in
theorem wellFormed_writes {script : List StorageWrite} {group : Bytes}
    (hascending : Ascending (inserted script group)) {record : GroupRecord}
    (h : writes script group = some record) :
    record.WellFormed := by
  have hkept := retains_writes script group hascending
  have hepochs : (writes script).epochs group = record.epochs := by
    unfold PersistableGroupStorage.epochs
    rw [h]
    rfl
  rw [hepochs] at hkept
  refine { ascending := hkept.ascending hascending, bounded := ?_ }
  rw [← List.length_map (f := Prod.fst), hkept.ids]
  exact newest_length _ _

/-- A storage keeps the newest epochs of every group, and a record leaves it and comes
back as it was. -/
theorem storage_keeps_and_restores :
    (forall script, (forall group, Ascending (inserted script group)) ->
      forall group,
        Ascending ((writes script).epochs group) ∧
          ((writes script).epochs group).map Prod.fst =
            newest epochRetention ((inserted script group).map Prod.fst) ∧
          (forall e, e ∈ (writes script).epochs group ->
            latest (history script group) e.1 = some e.2) ∧
          (forall id, (writes script).epoch group id =
            if id ∈ newest epochRetention ((inserted script group).map Prod.fst) then
              latest (history script group) id
            else none) ∧
          (writes script).maxEpochId group =
            ((inserted script group).map Prod.fst).getLast? ∧
          (forall last, (writes script).maxEpochId group = some last ->
            forall e, e ∈ inserted script group -> e.1 <= last) ∧
          forall bytes t, exportGroup F (writes script) group = .ok bytes ->
            (importGroup F t bytes).1 = .ok group ∧
              (importGroup F t bytes).2 group = writes script group ∧
              forall other, other ≠ group -> (importGroup F t bytes).2 other = t other) ∧
      (forall t bytes group t', importGroup F t bytes = (.ok group, t') <->
        exists record : GroupRecord, record.WellFormed ∧
          encodeRecord F group record = some bytes ∧
          t' = Function.update t group (some record)) ∧
      forall t bytes e, (importGroup F t bytes).1 = .error e ->
        (importGroup F t bytes).2 = t := by
  refine ⟨fun script hascending group => ?_, fun _ _ _ _ => importGroup_ok hF,
    fun _ _ _ h => importGroup_error h⟩
  have hgroup := hascending group
  have hkept := retains_writes script group hgroup
  refine ⟨hkept.ascending hgroup, hkept.ids, hkept.logs.values, epoch_writes hgroup,
    maxEpochId_writes hgroup, ?_, ?_⟩
  · intro last hlast e he
    rw [maxEpochId_writes hgroup] at hlast
    exact le_last hgroup he hlast
  · intro bytes t hexport
    unfold exportGroup at hexport
    split at hexport
    · cases hexport
    next record hrecord =>
      split at hexport
      next out hencoded =>
        cases hexport
        have himport := (importGroup_ok hF (s := t)).mpr
          ⟨record, wellFormed_writes hgroup hrecord, hencoded, rfl⟩
        rw [himport, hrecord]
        refine ⟨rfl, Function.update_self .., fun other hother => ?_⟩
        exact Function.update_of_ne hother ..
      next => cases hexport

end PersistableGroupStorage

/-!
## Short records
-/

def shortFields : PersistableGroupStorage.FieldCodecs :=
  { bytes := Codec.shortBytes, u64 := Codec.u64 }

theorem shortFields_canonical : shortFields.Canonical :=
  { bytes := Codec.canonical_shortBytes
    u64 := Codec.canonical_u64
    filling := Codec.filling_u64 }

/-- Four epochs are inserted one by one, and the last write also updates the first,
which is gone, and the third. -/
def fourWrites : List StorageWrite :=
  [{ group := [0x67], state := [1], inserts := [(0, [10])], updates := [] },
    { group := [0x67], state := [2], inserts := [(1, [11])], updates := [] },
    { group := [0x67], state := [3], inserts := [(2, [12])], updates := [] },
    { group := [0x67], state := [4], inserts := [(3, [13])], updates := [] },
    { group := [0x67], state := [5], inserts := [], updates := [(0, [20]), (2, [22])] }]

theorem fourWrites_ascending (group : Bytes) :
    PersistableGroupStorage.Ascending
      (PersistableGroupStorage.inserted fourWrites group) := by
  unfold PersistableGroupStorage.inserted
  by_cases h : group = [0x67]
  · subst h
    unfold PersistableGroupStorage.Ascending
    decide
  · have hother : ([0x67] == group) = false := by
      rw [beq_eq_false_iff_ne]
      exact fun heq => h heq.symm
    simp [fourWrites, hother, PersistableGroupStorage.Ascending]

/-- The three newest are left, the third with its update. -/
theorem fourWrites_kept :
    (PersistableGroupStorage.writes fourWrites).epochs [0x67] =
        [(1, [11]), (2, [22]), (3, [13])] ∧
      (PersistableGroupStorage.writes fourWrites).maxEpochId [0x67] = some 3 ∧
      exists bytes,
        PersistableGroupStorage.exportGroup shortFields
          (PersistableGroupStorage.writes fourWrites) [0x67] = .ok bytes ∧
        (PersistableGroupStorage.importGroup shortFields PersistableGroupStorage.new
          bytes).2 [0x67] =
            PersistableGroupStorage.writes fourWrites [0x67] := by
  rcases PersistableGroupStorage.storage_keeps_and_restores shortFields_canonical with
    ⟨hwrites, _⟩
  rcases hwrites fourWrites fourWrites_ascending [0x67] with
    ⟨_, _, _, _, hmax, _, hrestores⟩
  refine ⟨by decide, hmax.trans (by decide), _, rfl, ?_⟩
  exact (hrestores _ PersistableGroupStorage.new rfl).2.1

end Apq
end TwoMlsPq
